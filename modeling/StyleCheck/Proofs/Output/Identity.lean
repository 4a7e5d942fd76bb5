import StyleCheck.Output.CodeClimate
import StyleCheck.Proofs.Text.Split
import StyleCheck.Proofs.Text.Utf8
import StyleCheck.Proofs.Validation.Message

/-!
# The identities of issues

**Theorem (`nodup_identities`).** For reports on files that are displayed with different paths,
whose findings are those of contents, no two issues have the same identity, so no two have the same
fingerprint either, unless the hash of different identities is the same.

The parts of an identity are joined by colons and a path may hold colons of its own. But a message
holds none, and neither do numbers, so the parts are found again from behind
(`identity_eq_iff`). Issues of different reports differ in the path. Issues of one report differ in
the line or in the message, because consolidation makes no two findings of one message that start
on one line.
-/

namespace StyleCheck

/-- The findings of the report are those of a content. -/
def Report.IsOfContent (report : Report) : Prop :=
  ∃ content settings options, report.findings = Validation.contentFindings content settings options

namespace Digest.Sha256

variable {m n : Nat} {a b : List UInt8}

theorem hexDigit_inj (hm : m < 16) (hn : n < 16) (h : hexDigit m = hexDigit n) : m = n := by
  have hall : ∀ m < 16, ∀ n < 16, hexDigit m = hexDigit n → m = n := by decide
  exact hall m hm n hn h

theorem hex_inj (h : hex a = hex b) : a = b := by
  rw [hex, hex, String.ofList_inj] at h
  induction a generalizing b with
  | nil =>
    cases b with
    | nil => rfl
    | cons y b => cases h
  | cons x a ih =>
    cases b with
    | nil => cases h
    | cons y b =>
      rw [List.flatMap_cons, List.flatMap_cons] at h
      -- Each byte is two digits, so both texts are cut behind the same number of characters.
      obtain ⟨hbyte, hrest⟩ := List.append_inj h rfl
      obtain ⟨hhigh, hlow⟩ := List.cons.inj hbyte
      have hx := x.toNat_lt
      have hy := y.toNat_lt
      have hhigh := hexDigit_inj (by omega) (by omega) hhigh
      have hlow := hexDigit_inj (by omega) (by omega) (List.cons.inj hlow).1
      have hxy : x = y := UInt8.toNat_inj.1 (by omega)
      rw [hxy, ih hrest]

end Digest.Sha256

namespace Output.CodeClimate

variable {reports : List Report} {report : Report} {entry other : Entry}

/-! ## The parts of an identity -/

theorem toString_inj {m n : Nat} : (toString m).toList = (toString n).toList ↔ m = n := by
  constructor
  · intro h
    have hdigits := Text.digits?_toString m
    rw [h, Text.digits?_toString n] at hdigits
    exact (Option.some.inj hdigits).symm
  · rintro rfl
    rfl

theorem toList_identity (entry : Entry) :
    (Issue.ofEntry entry).identity.toList =
      ((entry.path.toList ++ ':' :: (toString (entry.finding.firstLine.getD 0)).toList) ++
        ':' :: (toString entry.finding.further).toList) ++ ':' :: entry.finding.message.toList := by
  simp [Issue.ofEntry]

/-- An error of the whole file has the number zero, which no line has. -/
theorem getD_firstLine_inj {a b : Finding} :
    a.firstLine.getD 0 = b.firstLine.getD 0 ↔ a.line = b.line := by
  unfold Finding.firstLine
  cases a.line <;> cases b.line <;> simp

/-- **The parts of an identity are told from each other**, as long as no message holds a colon. -/
theorem identity_eq_iff (h : ':' ∉ entry.finding.message.toList)
    (hother : ':' ∉ other.finding.message.toList) :
    (Issue.ofEntry entry).identity = (Issue.ofEntry other).identity ↔
      ((entry.path = other.path ∧ entry.finding.line = other.finding.line) ∧
        entry.finding.further = other.finding.further) ∧
        entry.finding.message = other.finding.message := by
  have hnumber := Violation.colon_not_mem_toString
  rw [← String.toList_inj, toList_identity, toList_identity, Text.append_cons_inj h hother,
    Text.append_cons_inj (hnumber _) (hnumber _), Text.append_cons_inj (hnumber _) (hnumber _),
    toString_inj, toString_inj, getD_firstLine_inj, String.toList_inj, String.toList_inj]

/-! ## The entries of reports -/

theorem colon_not_mem_of_mem_entriesOf (h : report.IsOfContent)
    (hentry : entry ∈ entriesOf report) : ':' ∉ entry.finding.message.toList := by
  obtain ⟨content, settings, options, hfindings⟩ := h
  obtain ⟨run, hrun, rfl⟩ := List.mem_map.1 hentry
  obtain ⟨finding, hfinding, hmessage⟩ := Finding.exists_of_mem_consolidate hrun
  rw [hfindings] at hfinding
  obtain ⟨line, violation, rfl⟩ := Validation.exists_of_mem_contentFindings hfinding
  show ':' ∉ run.message.toList
  rw [← hmessage]
  exact Violation.colon_not_mem_message violation

/-- Entries of one report start on different lines or have different messages. -/
theorem pairwise_entriesOf (h : report.IsOfContent) :
    (entriesOf report).Pairwise fun a b =>
      (a.finding.line, a.finding.message) ≠ (b.finding.line, b.finding.message) := by
  obtain ⟨content, settings, options, hfindings⟩ := h
  refine List.pairwise_map.2 (Finding.pairwise_consolidate ?_)
  rw [hfindings]
  exact Validation.nodup_covered_contentFindings content settings options

theorem path_of_mem_entriesOf (h : entry ∈ entriesOf report) :
    entry.path = report.path.display := by
  obtain ⟨finding, -, rfl⟩ := List.mem_map.1 h
  rfl

theorem pairwise_entries (h : ∀ report ∈ reports, report.IsOfContent)
    (hpaths : (reports.map fun report => report.path.display).Nodup) :
    (entries reports).Pairwise fun a b =>
      (Issue.ofEntry a).identity ≠ (Issue.ofEntry b).identity := by
  refine List.pairwise_flatMap.2 ⟨fun report hreport => ?_, ?_⟩
  · -- Two entries of one report.
    refine (pairwise_entriesOf (h report hreport)).imp_of_mem fun {a b} ha hb hne heq => ?_
    have hcolon := colon_not_mem_of_mem_entriesOf (h report hreport) ha
    have hcolon' := colon_not_mem_of_mem_entriesOf (h report hreport) hb
    obtain ⟨⟨⟨-, hline⟩, -⟩, hmessage⟩ := (identity_eq_iff hcolon hcolon').1 heq
    exact hne (Prod.ext hline hmessage)
  · -- Entries of two reports.
    refine (List.pairwise_map.1 hpaths).imp_of_mem fun {first second} hfirst hsecond hne => ?_
    intro a ha b hb heq
    have hcolon := colon_not_mem_of_mem_entriesOf (h first hfirst) ha
    have hcolon' := colon_not_mem_of_mem_entriesOf (h second hsecond) hb
    obtain ⟨⟨⟨hpath, -⟩, -⟩, -⟩ := (identity_eq_iff hcolon hcolon').1 heq
    rw [path_of_mem_entriesOf ha, path_of_mem_entriesOf hb] at hpath
    exact hne hpath

/-! ## Main result -/

/-- What the hash of an identity is taken of. -/
def identityBytes (identity : String) : List UInt8 := Text.Utf8.encode identity.toList

theorem identityBytes_inj {a b : String} (h : identityBytes a = identityBytes b) : a = b := by
  have hdecoded := Text.Utf8.decode?_encode a.toList
  rw [← identityBytes, h, identityBytes, Text.Utf8.decode?_encode] at hdecoded
  exact String.toList_inj.1 (Option.some.inj hdecoded).symm

/-- No two different identities have bytes with the same hash. -/
def CollisionFree (identities : List String) : Prop :=
  ∀ a ∈ identities, ∀ b ∈ identities,
    Digest.Sha256.hash (identityBytes a) = Digest.Sha256.hash (identityBytes b) →
      identityBytes a = identityBytes b

/-- **No two issues have the same identity**, and none the same fingerprint as long as the hash
tells the identities from each other. -/
theorem nodup_identities (h : ∀ report ∈ reports, report.IsOfContent)
    (hpaths : (reports.map fun report => report.path.display).Nodup) :
    ((issues reports).map Issue.identity).Nodup ∧
      (CollisionFree ((issues reports).map Issue.identity) →
        ((issues reports).map Issue.fingerprint).Nodup) := by
  have hnodup : ((issues reports).map Issue.identity).Nodup := by
    rw [issues, List.map_map]
    exact List.pairwise_map.2 (pairwise_entries h hpaths)
  refine ⟨hnodup, fun hfree => ?_⟩
  refine List.pairwise_map.2 ((List.pairwise_map.1 hnodup).imp_of_mem ?_)
  intro a b ha hb hne heq
  refine hne (identityBytes_inj (hfree _ (List.mem_map_of_mem ha) _ (List.mem_map_of_mem hb) ?_))
  exact Digest.Sha256.hex_inj heq

/-- The second path is the first one with a colon and the line of an error behind it. -/
theorem nodup_identities_colons :
    let settings : EditorSettings := { insertFinalNewline := true, trimTrailingWhitespace := true }
    let findings := Validation.contentFindings "x \ny \nz".toList settings {}
    let others := Validation.contentFindings "x \n".toList settings {}
    let reports : List Report := [⟨⟨"a"⟩, findings⟩, ⟨⟨"a:1"⟩, others⟩]
    (issues reports).map Issue.identity =
        ["a:0:0:final newline expected", "a:1:1:trailing whitespace",
          "a:1:1:0:trailing whitespace"] ∧
      CollisionFree ((issues reports).map Issue.identity) ∧
      ((issues reports).map Issue.identity).Nodup ∧
      ((issues reports).map Issue.fingerprint).Nodup := by
  intro settings findings others reports
  have h : ∀ report ∈ reports, report.IsOfContent := by
    intro report hreport
    rcases List.mem_pair.1 hreport with rfl | rfl <;> exact ⟨_, _, _, rfl⟩
  obtain ⟨hidentities, hfingerprints⟩ := nodup_identities h (by decide)
  have hfree : CollisionFree ((issues reports).map Issue.identity) := by
    unfold CollisionFree
    decide +kernel
  exact ⟨by decide, hfree, hidentities, hfingerprints hfree⟩

end Output.CodeClimate

end StyleCheck
