import StyleCheck.Charset.EastAsian
import StyleCheck.Charset.Gb18030

/-!
# Plausibility in East Asian charsets

How plausible a text is in a charset of East Asia. Common ideographs and syllables count most; a
letter of ASCII beside one costs points.

A pair of bytes may well be a punctuation mark of another charset and an ASCII letter. After such a
first byte, the points of a character wait until the next character is East Asian too.
-/

namespace StyleCheck.Charset.Frequent

/-! ## Frequent characters

The most frequent characters of three languages, the most frequent first. A text in one of them
gains some points for each. -/

/-- The most frequent ideographs of simplified Chinese. -/
def simplified : String :=
  "中国大学一人市山公路站线民东南会县区主三和天年名立小新海地北西高上部共电江军龙斯日科长王金城花河" ++
  "法文生水美动场队第州子联院列体世道家星司平机阿时台安事特省明行五利里门克拉罗马尔的是不了在有我他" ++
  "这个们来为到以说要就出可也你对能而那得于着下自之过发后作用所然种"

/-- The most frequent ideographs of Japanese. -/
def kanji : String :=
  "日本大学山田中国一道川人島市県年会部東三新小野線駅原上高木子南西町北太郎地長村名車生神二場社美第" ++
  "公物区世組下京文内水校合金正藤谷代号平和海手電石明松立動空行体女天戦古出安時月十族井院理式史館間" ++
  "王口目士方入園作力岡分定河自法橋事家花通後記化信曲権交吉音集州連"

/-- The most frequent syllables of Korean. -/
def hangul : String :=
  "이스리아시지대사의로인기나라도다르자제주트일한장정전국부고가수학드구선성신해어동마크조교상그하토" ++
  "바니영모산유안무세미화연오레비보관용원여에파소공위과을치프타터카단래블민진경남북류당방만천차우호" ++
  "문서양은는를있것들내말행음계"

/-- The points for a character: one for every sixteen places before the end of the list. -/
def points (list : String) (c : Char) : Int :=
  match list.toList.idxOf? c with
  | some place => (((128 - place) / 16 : Nat) : Int)
  | none => 0

end StyleCheck.Charset.Frequent

namespace StyleCheck.Charset.Wide

/-! ## Characters -/

/-- What a character is in a charset of East Asia. -/
inductive Item
  | ascii
  | asciiLetter
  /-- An ideograph or a syllable. `atStart` are the points if it starts a run of them. -/
  | wide (points : Int) (atStart : Int)
  /-- A Korean syllable. -/
  | hangul (points : Int)
  /-- An ideograph among Korean syllables. -/
  | hanja
  | halfWidth (c : Char)
  /-- Anything else. -/
  | aside (points : Int)
  deriving DecidableEq, Repr

/-- The points for a common ideograph. -/
def common : Int := 41

/-- The points for an ideograph that is less common. -/
def uncommon : Int := 20

/-- The points for an ideograph that is rare. -/
def rare : Int := 5

/-- Whether the character is an ideograph. -/
def isIdeograph (c : Char) : Bool :=
  (0x3400 ≤ c.toNat && c.toNat ≤ 0x9FFF) || (0xF900 ≤ c.toNat && c.toNat ≤ 0xFAFF) ||
    0x20000 ≤ c.toNat

/-- Whether the character is hiragana or katakana. -/
def isKana (c : Char) : Bool := 0x3040 ≤ c.toNat && c.toNat ≤ 0x30FF

/-- Whether the character is private. -/
def isPrivate (c : Char) : Bool := 0xE000 ≤ c.toNat && c.toNat ≤ 0xF8FF

/-- Whether the character is half-width katakana. -/
def isHalfWidth (c : Char) : Bool := 0xFF61 ≤ c.toNat && c.toNat ≤ 0xFF9F

/-- The punctuation that Chinese and Japanese use and Korean does not. -/
def punctuation : List Char := "\u3000、。！（），；？".toList

/-- The item of a character that is neither private nor one of a syllabary or an ideograph. -/
def otherItem (c : Char) : Item := .aside (if punctuation.contains c then 20 else 5)

/-- The item of an ASCII character. -/
def asciiItem (c : Char) : Item :=
  if ('a' ≤ c && c ≤ 'z') || ('A' ≤ c && c ≤ 'Z') then .asciiLetter else .ascii

/-! ## Charsets -/

/-- A charset as it is seen here. -/
structure Manner where
  charset : Charset.Reader
  /-- The item of a character beside ASCII, which is given with its first two bytes. -/
  item : (lead trail : UInt8) → Char → Item
  /-- Whether the byte, as the first one, may well be punctuation of another charset. -/
  isDoubtful : UInt8 → Bool

/-- Whether the byte is a quotation mark, a dash, a letter of Central European languages, or the
sign for degrees in other charsets. -/
def isDoubtful (b : UInt8) : Bool :=
  within 0x91 0x97 b || [0x8A, 0x8B, 0x8E, 0x9A, 0x9B, 0x9E, 0xB0].contains b

/-- The simplified characters of Chinese, of which those of two high bytes are in general use. -/
def gbk : Manner where
  charset := .gb18030
  item lead trail c :=
    if isIdeograph c then
      if isHigh lead && isHigh trail then
        .wide (if lead ≤ 0xD7 then common + Frequent.points Frequent.simplified c else uncommon) 0
      else .wide rare 0
    else if isPrivate c then .aside (-410)
    else if lead == 0x80 then .aside (-220)
    else otherItem c
  isDoubtful := isDoubtful

/-- Japanese with a high bit in each byte. -/
def eucJp : Manner where
  charset := .eucJp
  item lead _ c :=
    if isHalfWidth c then .halfWidth c
    else if isKana c then .wide (if "ゐゑヰヱ".toList.contains c then 40 else 54) (-14)
    else if isIdeograph c then
      if lead == 0x8F then .wide rare 0
      else .wide (if lead < 0xD0 then common + Frequent.points Frequent.kanji c else uncommon) 0
    else otherItem c
  isDoubtful _ := false

/-- Korean, of which the syllables of two high bytes are in general use. -/
def eucKr : Manner where
  charset := .eucKr
  item lead trail c :=
    if 0xAC00 ≤ c.toNat && c.toNat ≤ 0xD7A3 then
      .hangul (if isHigh lead && isHigh trail then
        common + 1 + Frequent.points Frequent.hangul c else 4)
    else if isIdeograph c then .hanja
    else if isPrivate c then .aside (-411)
    else .aside 5
  isDoubtful := isDoubtful

/-- Japanese with half-width katakana in one byte. -/
def shiftJis : Manner where
  charset := .shiftJis
  item lead trail c :=
    if isHalfWidth c then .halfWidth c
    else if isKana c then .wide 20 0
    else if isIdeograph c then
      if lead < 0x98 || (lead == 0x98 && trail < 0x73) then
        .wide (common + Frequent.points Frequent.kanji c) 0
      else .wide (if lead ≤ 0xEA then uncommon else -820) 0
    else if isPrivate c then .aside (-410)
    else if lead == 0x80 then .aside (-220)
    else otherItem c
  isDoubtful b := isDoubtful b || [0x82, 0x84, 0x85, 0xA0].contains b

/-- The traditional characters of Chinese, the common ones first. -/
def big5 : Manner where
  charset := .big5
  item lead _ c :=
    if isIdeograph c then .wide (if within 0xA4 0xC6 lead then common else uncommon) 0
    else otherItem c
  isDoubtful := isDoubtful

/-! ## Texts -/

/-- What the last character was. -/
inductive Before
  | other
  | asciiLetter
  | wide
  | hangul
  deriving DecidableEq, Repr, Inhabited

/-- Which marks of voicing may follow half-width katakana. -/
inductive Voicing
  | none
  | voiced
  | voicedOrHalfVoiced
  deriving DecidableEq, Repr, Inhabited

/-- What has been read. -/
structure State where
  before : Before := .other
  /-- The points that wait for the next character. -/
  waiting : Option Int := none
  /-- The length of the Korean word that is being read. -/
  word : Nat := 0
  voicing : Voicing := .none
  hasHalfWidth : Bool := false
  points : Int := 0
  deriving Inhabited

namespace State

/-- The points for a letter of ASCII beside an East Asian character. -/
def besideAscii : Int := -41

/-- With some points more. -/
def gain (state : State) (points : Int) : State := { state with points := state.points + points }

/-- With the points that wait. -/
def settle (state : State) : State := { state.gain (state.waiting.getD 0) with waiting := none }

/-- With the points of an ideograph or a syllable, which wait after a doubtful byte. -/
def gainWide (state : State) (isDoubtful : Bool) (points : Int) : State :=
  let settled := state.settle
  let beside := if state.before = .asciiLetter then besideAscii else 0
  let inRun := state.before = .wide || state.before = .hangul
  if inRun || !isDoubtful then settled.gain (points + beside)
  else { settled.gain beside with waiting := some points }

/-- With one more character of a Korean word; words are short. -/
def lengthen (state : State) : State :=
  { state.gain (if 5 ≤ state.word then -6 else 0) with word := state.word + 1 }

/-- The marks of voicing that may follow half-width katakana. -/
def voicingAfter (c : Char) : Voicing :=
  if (0xFF76 ≤ c.toNat && c.toNat ≤ 0xFF84) || c.toNat = 0xFF73 then .voiced
  else if 0xFF8A ≤ c.toNat && c.toNat ≤ 0xFF8E then .voicedOrHalfVoiced
  else .none

/-- The points for a mark of voicing, which needs katakana that it can follow. -/
def voicingPoints (voicing : Voicing) (c : Char) : Int :=
  if c.toNat = 0xFF9E then if voicing = .none then -220 else 10
  else if c.toNat = 0xFF9F then if voicing = .voicedOrHalfVoiced then 10 else -220
  else 0

/-- What has been read after one more character. -/
def step (isDoubtful : Bool) (state : State) (item : Item) : State :=
  let ended := { state with word := 0, voicing := .none }
  match item with
  | .ascii => { ended with waiting := none, before := .other }
  | .asciiLetter =>
    let inRun := state.before = .wide || state.before = .hangul
    { ended.gain (if inRun then besideAscii else 0) with waiting := none, before := .asciiLetter }
  | .aside points => { ended.settle.gain points with before := .other }
  | .wide points atStart =>
    { ended.gainWide isDoubtful (points + if state.before = .other then atStart else 0) with
      before := .wide }
  | .hangul points => { (state.gainWide isDoubtful points).lengthen with before := .hangul }
  | .hanja =>
    let mixed := if state.before = .hangul then -410 else 0
    { ((state.gainWide isDoubtful 10).gain mixed).lengthen with before := .wide }
  | .halfWidth c =>
    let first := if state.hasHalfWidth then 0 else -75
    { (ended.gainWide false (1 + voicingPoints state.voicing c)).gain first with
      before := .wide, hasHalfWidth := true, voicing := voicingAfter c }

end State

/-- The item of a piece of text. -/
def itemOf (manner : Manner) : List UInt8 × List Char → Item
  | (bytes, [c]) =>
    if c.toNat < 0x80 then asciiItem c
    else manner.item (bytes.headD 0) ((bytes.drop 1).headD 0) c
  | _ => .aside 5

/-- The plausibility of a byte string; `none` if it is no text of the charset. -/
def plausibility? (manner : Manner) (bytes : List UInt8) : Option Int :=
  (manner.charset.pieces? bytes).map fun pieces =>
    (pieces.foldl
      (fun state piece =>
        state.step (manner.isDoubtful (piece.1.headD 0)) (itemOf manner piece))
      ({} : State)).points

end StyleCheck.Charset.Wide
