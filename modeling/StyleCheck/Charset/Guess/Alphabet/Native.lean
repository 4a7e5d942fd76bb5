import StyleCheck.Charset.Guess.Alphabet

/-!
# Pairs of letters: alphabets of their own

How usual the pairs of letters are in the languages that have an alphabet of their own.
-/

namespace StyleCheck.Charset.Alphabet

/-! ## Languages in Cyrillic letters

Russian, Ukrainian, Belarusian, Bulgarian,
Serbian and Macedonian. -/

/-- The letters of languages in Cyrillic letters, and how usual their pairs are. -/
def cyrillic : Alphabet where
  isLatin := false
  rows := [
    (' ', "00CFFFF97AD0ICGDBJDMDA987C964.096B07987C8B8747B67"),
    ('a', "0000000....00000.0000....................0......."),
    ('а', "U0NRhRiDGUBRfdWsFHkWcDAQbKBF040AGdGIG40APZID04c76"),
    ('б', "60Z464GQ04N69H40U4QH6S04000FKT44460..0.F44400.000"),
    ('в', "B0q46HFrG4i44H6Qm4OMGD0BB400TJB44JG0.4.k44000.000"),
    ('г', "80U4C44Q04M49K0.e4U60F040000B4BN040..4.Q44000.000"),
    ('д', "B0lCF44aMiW44DAda4SI.I044400FFBBBB00.4.P440J0.400"),
    ('е', "J.COhGdBGU7TWgRpIJmZc666FOMF04404B0CG0044GDPLN840"),
    ('ж', "6.O00BIRB0O4440KG0464D00090.BJ440B9..0.600....0.."),
    ('з', "80SH4JNT90S4CHJGD0DDIH0F000.0DB44N0..0.U00.0..00."),
    ('и', "P.JJUIPOCQGpbYRiFQNZX7BMNQMB0400EW040000BZ66f0.70"),
    ('й', "K04640664404AC6HB46SI.0444400644440..4.00.....0.0"),
    ('к', "E4z.I.4K96u.7I70p0RKOS46464BJ444B.0004.b.00CC0440"),
    ('л', "90k74GAfH4j4DD4Fa4.EDK444940FAg4MPG0.4.V460000400"),
    ('м', "B0dK766U04V40G64bABD.N004400C6G44B00.4.V46C00.400"),
    ('н', "E4uABLRT46j.KC4Zi4.aLB46HDK94jb44O8004.j..0400664"),
    ('о', "L.CUlXcHONHOUeTZBQcfV7CHGPIG04404E0H0D06HU44PNc74"),
    ('п', "80U4444Q00L44J4Cf6YD6E0009H.J4640G0..0.R0H000.000"),
    ('р', "90/DHLMpGBl4N7CLh47OJY46B460MYJN4B4CG4.W6400004D0"),
    ('с', "84T4S00c44T.vSGHRHKGtP4IG440U9t44NG004.V.40400440"),
    ('т', "F0kDQ60e44g6AD.Hp6VJCP4G4440OMYDBE90.4.L400400400"),
    ('у', "D.FNION9KI8HIIUL6IMXH49HBGOD4447G0000B.66E40CG044"),
    ('ф', "0.F0040E00G0440B80G44F00000.0444040..0.F00....0.."),
    ('х', "8.J0C04B00E444C4Q0H4BH00000.C444060..0.R00....0.."),
    ('ц', "B.P0B04L00O0C44440D4GB00S00.B9M9BGG..0.R00....0.."),
    ('ч', "60R0404V40K4Q44JT044CC00040.08F604D..0.604.0..0.."),
    ('ш', "6.E0600R00H0MB04C446bC00040.049604...0.B00C4C.0.."),
    ('щ', "4.G0000O..F00009J.0000.......0D..0F....0........."),
    ('ъ', "0.0BFBFK0M00GP4KB0cBM4B0B00B0...B49.............."),
    ('ы', "E.48GA96444VDOOB49A9904GH90..4400S0....7......H.."),
    ('ь', "I.04B4B84944u4BOJ66J44B40940.404BG4..4.00.....0.0"),
    ('э', "4.004444000AAA7D00DIO069444..04044.....0......4.."),
    ('ю', "8.000BM0DB046B0E004BG040G009004..0.....0......0.."),
    ('я', "H.4J49B44A49X7CL46I4P4444B490464060....40.....4.0"),
    ('ё', "6.009000.00G4D9H00GG900000...00..0.....0......G.."),
    ('ђ', "0.M.0.0L..4.0000C.000H...................0......."),
    ('ѓ', "0.N....G..G.0..0G.00.G..........................."),
    ('є', "4.00H4G0000044440064400000B...4.G......0B.......0"),
    ('ѕ', "0.0.G..0..G.....0................................"),
    ('і', "K.F8iIZ4BD.ULSMbDEKUR647OMB0...40R4..G.7E.....4.4"),
    ('ї', "8.00G440B00G064K0044700I000...4..0.....0E........"),
    ('ј', "A0f0404a04E.4446I04MBM00404........0.....6000..4."),
    ('љ', "0.E0000P..4.000040040P...................0......."),
    ('њ', "0.E0000a.0I.4004400404...0...............0......."),
    ('ћ', "E.M0000L..D.000440000C...................0......."),
    ('ќ', "7.N....O..4.00.0G.0000..........................."),
    ('ў', "B.4000J.G0.0GN4Y409JN400000..6000.0...........0.."),
    ('џ', "0.90000H.0G.4004600406...................0......."),
    ('ґ', "0.D04000..000000C0C004........0..0.....4.........")]

/-! ## Greek -/

/-- The letters of Greek, and how usual their pairs are. -/
def greek : Alphabet where
  isLatin := false
  rows := [
    (' ', "00.0A674.IBEDG668AMBKD7BK7.HI48C6400946"),
    ('a', "00..4004..46444006....066.6..404.00.400"),
    ('ͺ', "......................................."),
    ('ΐ', "0........4..0.....0..0.4.0..0.........."),
    ('ά', "E4...44..0BDF.B8EHHTKf0ECX4NN.F6040.640"),
    ('έ', "00..4404.K4B0A740DBGJUECBWGGD4A0400.400"),
    ('ή', "F0..4004..46A44006EBHI06EEDHE404.00.400"),
    ('ί', "84...446.m7AHE8440OLGU0O49KKN644000.440"),
    ('ΰ', "......................................."),
    ('α', "U..64.4J.0JTK0F.CfUgWmE9OfYUgMKB06N..A4"),
    ('β', "04..GF4D.MA4BC060G6B44.G4Q406.00.40.G40"),
    ('γ', "06..BBH9.G4E0M470UXEA40T6P66.B04.A4.E0A"),
    ('δ', "04..DAHD.I040R0J0b6400.O4K446800.B0.EA0"),
    ('ε', "B4..044c.7DG7.96EYIaFVB6UhVQRQ4B07D44E0"),
    ('ζ', "44..DB47.E0007070G4064.A04044600.H0.444"),
    ('η', "J0..6404..4F6644A0.4LS0.4JVSB444000.400"),
    ('θ', "00..BBH0.D000N0B.94AFB.G0K0040.0.00.A00"),
    ('ι', "K6..QD6..kGBBE84F./KJc4r8IOVM.F60B4.K6J"),
    ('κ', "7..0hHWJ.v0.6P4K4QEH940f0O46KF060E60fEB"),
    ('λ', "4...LEIK.b786b4X0eCTC40c4..69BA0.640FAH"),
    ('μ', "4...OSNO.kH44g440N..CB0Se..64A40.640L.4"),
    ('ν', "E..0IIHR.d4LPP6YKh946N0c..48dB440E60J.4"),
    ('ξ', "00..AE00.A.0.B.A.F0000.A000000......0E."),
    ('ο', "I6....6G.7AHJ4BB0dMXMO4.OQ/JQ+F604BA.h4"),
    ('π', "0...JI.F.d404R4G0M.B.A0p6d6.M.00.B4.K.4"),
    ('ρ', "6..0RIAe.t9I8T6J6tD7DE0o.A09LI4E.O40KAD"),
    ('ς', "W6....6...464.0.0.....0.6.46..00.44..64"),
    ('σ', "....HDBO.Y06AW4YBRO8K60TB86QgJEB.44.8H4"),
    ('τ', "7..0YOJG.n606ZHe4k67660j.Y6N.444.F40M.H"),
    ('υ', "A4..M8B6.GCL9864FBFHGMB48OEJR64E000.640"),
    ('φ', "04..BHBF.C040F04A94044.H0E000A00.B0.6A0"),
    ('χ', "04..94BD.N040D040G444A.H4I040600.G0.44B"),
    ('ψ', "0...B..0.0...4.0.40..0.0.....A...A..0.."),
    ('ω', "40..A0A0.64EA4000446CJ.4HNHDF000.0..00."),
    ('ϊ', "00..0000.464A00004D6B6.40444D000....B0."),
    ('ϋ', "0.................0..0..A0..0..4......."),
    ('ό', "A4..6444.60AB04444EPHK0.ERaMO60B.00.440"),
    ('ύ', "70..4004.686I644A67IGN00FH0IG404.00.400"),
    ('ώ', "60..0000.4A400000444GA.46M4GA000....00.")]

/-! ## Arabic and Persian

Some charsets add letters of French, which count as
those of ASCII. -/

/-- The letters of Arabic and Persian, and how usual their pairs are. -/
def arabic : Alphabet where
  isLatin := false
  foreign := "àâçèéêëîïôùûüœ"
  rows := [
    (' ', "00..BC060JE0B4769C089B9404466.8777F8A8.6.........B8..4C9...."),
    ('a', "00.........................................................."),
    ('ˆ', "............................................................"),
    ('\u0621', "7..........................................................."),
    ('\u0622', "0...0...00F0A.0084A7D60....09.44084E90.0.........04...00...."),
    ('\u0623', "0..0.0.00.C6000CB70B680900.09.4698AF0E0F...................."),
    ('\u0624', "0........8006....0.0.0..........0600.6.6...................."),
    ('\u0625', ".....0.0..6000006060040.60.80.00064900.6...................."),
    ('\u0626', "0...00..09084.0.04.6406.....0.0009006C.7.........00...00...."),
    ('\u0627', "E..J0.0.D.G6NC9B4U0gTQBC69996.H79/RtTJ0J.........DA..9GE...."),
    ('\u0628', "6..04.000a60A009DA0QC69006.G6.467F4BTK0P.........40..040...."),
    ('\u0629', "H..........................................................."),
    ('\u062a', "C..04.009TD60067600L4AD90006D.6447HGBM0E.........44..040...."),
    ('\u062b', "0....0...8060.0..0.8000....60.060B6800.4...................."),
    ('\u062c', "6..000.00D8760000F0AB49000.00.0007EC680B.........00...40...."),
    ('\u062d', "4....0.0.F666060099B0800.0.00.0D87D600.9.........0....00...."),
    ('\u062e', "4...00.00780D.0009.D009669.00.0004940I.8.........00...00...."),
    ('\u062f', "F..044000ZD9.040990U064000.00.44.7BFHL0N.........40..00C...."),
    ('\u0630', "0....0...B000.0..0.D.0........9.060080.6..............0....."),
    ('\u0631', "H..04B606bIGB0EBDR007FF407094.9D76JD8b0Q..........4..4BD...."),
    ('\u0632', "9..600.00IB6400009.D0400.0.00.0004AI9C.B.........00...44...."),
    ('\u0633', "7..04.604LD8R090000H4.400B.64.D68CAEFF0L.........44..0B....."),
    ('\u0634', "7..000600B46K06060.D0490.0.00.0764IMFA.B.........00...99...."),
    ('\u0635', "0....0...9940.04.9.7000..0.06.90090607.4.........0....00...."),
    ('\u0636', "4....0...C000.0..6.6.0.....60.0.066066.0...................."),
    ('\u0637', "4....6.0.9000.0000.B0600.0.00.9404660C04..............00...."),
    ('\u0638', "4........06........0.............6.060.0...................."),
    ('\u0639', "4...00.0.FBD40000C.70060B0.00.090C9894.6.........0....00...."),
    ('\u063a', "0..0.0.00B09400008.A670000.00.0044090A0E.........0....00...."),
    ('\u0640', "............................................................"),
    ('\u0641', "4..000600F6BD00004.I900060904.06446A9B0F.........00...00...."),
    ('\u0642', "6..000.00BD760000D.74400.9.00.000B94AA6A.........00...40...."),
    ('\u0643', "6..00.000J7696.0000E070000.04.00.B780G0E...................."),
    ('\u0644', "A..04H0B6QDDG9DCCG6E6H66090BB.BCKEMDBH9N.........44..074...."),
    ('\u0645', "9..04.606fEJH6490F0L4IA7000C4.0ADA7IHH0K.........49..064...."),
    ('\u0646', "I..00.004MPBE0E84a068GD90498A.097669EM0O.........64..09M...."),
    ('\u0647', "H..040600L9000400FBM9AF0.0.00.9406KE0C.B.........40..044...."),
    ('\u0648', "9..66.00BTH6G4E94K0WHKD086076.CD8KGPEB6F.........9A..4CB...."),
    ('\u0649', "4..........................................................."),
    ('\u064a', "B..60.0.8NBUE09.6B0OCD64B4086.9BDJFQ7L0B...................."),
    ('\u064b', "............................................................"),
    ('\u064c', "............................................................"),
    ('\u064d', "............................................................"),
    ('\u064e', "............................................................"),
    ('\u064f', "............................................................"),
    ('\u0650', "............................................................"),
    ('\u0651', "............................................................"),
    ('\u0652', "............................................................"),
    ('\u0679', "............................................................"),
    ('\u067e', "0...0...0F4.4.00090B4C90...00.00.44G6B...........00..940...."),
    ('\u0686', "0...0...070.0.0.00.9009..9....00.009F7...........00...A0...."),
    ('\u0688', "............................................................"),
    ('\u0691', "............................................................"),
    ('\u0698', "0........D0.0....0.000...........00099................00...."),
    ('\u06a9', "7...4...4M..6040090L7CD0.0.00.04.86EAN...........00..0......"),
    ('\u06af', "6...0...0L4...000.9L0.40.0.00.00.F040I...........40..044...."),
    ('\u06ba', "............................................................"),
    ('\u06be', "............................................................"),
    ('\u06c1', "............................................................"),
    ('\u06d2', "............................................................")]

/-! ## Hebrew -/

/-- The letters of Hebrew, and how usual their pairs are. -/
def hebrew : Alphabet where
  isLatin := false
  rows := [
    (' ', "00..................VMDEKDAGCK.GK0Q0DGF.F.AFFND..."),
    ('a', "00................................................"),
    ('ˆ', ".................................................."),
    ('\u05b0', ".................................................."),
    ('\u05b1', ".................................................."),
    ('\u05b2', ".................................................."),
    ('\u05b3', ".................................................."),
    ('\u05b4', ".................................................."),
    ('\u05b5', ".................................................."),
    ('\u05b6', ".................................................."),
    ('\u05b7', ".................................................."),
    ('\u05b8', ".................................................."),
    ('\u05b9', ".................................................."),
    ('\u05ba', ".................................................."),
    ('\u05bb', ".................................................."),
    ('\u05bc', ".................................................."),
    ('\u05bd', ".................................................."),
    ('\u05bf', ".................................................."),
    ('\u05c1', ".................................................."),
    ('\u05c2', ".................................................."),
    ('\u05d0', "C...................4RGPVtBaMo06aKLIaF44L46GeWT..."),
    ('\u05d1', "D...................PJ4FRbD67j04E7KIO8a04D4OvEN..."),
    ('\u05d2', "B...................E84JDYD64R04JI6JA6404044K44..."),
    ('\u05d3', "D...................9DH6Ue664Z04FM67B4L070E7QGD..."),
    ('\u05d4', "a...................OHE89h.77b0DBQCD4460E48FM8M..."),
    ('\u05d5', "I...................dlRfNfIGKd4DtcVilW7EL4JWsNn..."),
    ('\u05d6', "4...................FED6NG464Q.N648464D.4006L46..."),
    ('\u05d7', "B...................4I4L6i446W.0NIJ4D64.404NVDE..."),
    ('\u05d8', "B...................GE7.Kd644X04H6GJFBD0.04FP7...."),
    ('\u05d9', "R...................dTFIpqC6Zk4KhfGXhTJ4Q8Mcdex..."),
    ('\u05da', "B................................................."),
    ('\u05db', "....................DD4DDRED4IL0LD4DL404D.04D48..."),
    ('\u05dc', "J...................WMBPYgFICs04DKG4NB6IO4DG7JE..."),
    ('\u05dd', "P................................................."),
    ('\u05de', "....................XU7KQZPIIfD4F7D7HFP070NIQdD..."),
    ('\u05df', "N................................................."),
    ('\u05e0', "0...................G7TTdeEIJ/068.B.EO7094EK77D..."),
    ('\u05e1', "8...................F844GT66VW04C4H4F.40U04KI7H..."),
    ('\u05e2', "B....................J4DPP44DR.0NDI4740.4D0DPD8..."),
    ('\u05e3', "8................................................."),
    ('\u05e4', "0...................FE77Pd4DKP04F644G7406046g4O..."),
    ('\u05e5', "B................................................."),
    ('\u05e6', "4...................ID44D80D4O.044E464D.OD04H44..."),
    ('\u05e7', "D...................KJ46Vg76NT04D7BEOI60606.QE...."),
    ('\u05e8', "N...................YXSGXrFXJuMEB7IEFJI7BN7N66K..."),
    ('\u05e9', "D...................6MDIZV4MEb.4e4JDM4G0D046TDN..."),
    ('\u05ea', "R...................8E.4IG6N.W04DDJ.I.D0D04DRD...."),
    ('\u05f0', ".................................................."),
    ('\u05f1', ".................................................."),
    ('\u05f2', "..................................................")]

/-! ## Thai

Obsolete letters count as blank, and so do the digits. -/

/-- The letters of Thai, and how usual their pairs are. -/
def thai : Alphabet where
  isLatin := false
  ignored := "ฃฅๅ๐๑๒๓๔๕๖๗๘๙"
  rows := [
    (' ', "00dRT.ETHOM.446.4.7TVMTEaTUO8ZJOWKU6T.XL7hY4YD............zYQRQ4........"),
    ('a', "00......................................................................"),
    ('ก', "d.JAJ.A64MF.6N48..6NK68699B44666D.cBR.R7JKM.H8.FXqQRR6AKE.RKDBI.HTH9.G.."),
    ('ข', "4.7.6.44.46........6B.H.H64.....666.H.7..64.R..6HT.9M.467.846....HV..8.."),
    ('ค', "A.H6J.98.9A.4..6..6AB466OAA..774cBh6L.Y44C6.L6.BBU6FK4HUF.C8E46.7S9..F.."),
    ('ฆ', ".................................................4...............H......"),
    ('ง', "h.TJW.8H.8I.6..6..4AF4I6MA9HHA7HI6I4H.6C4RT.O8.8..6I.47AH.WDHR6.6A9....."),
    ('จ', "E.A48.H6H67.6..4...7H.64J76..66.98I.8.H..76.G4.MTQMUP.66B.H67.4.H86IH6.."),
    ('ฉ', "6.4.....................4.......4.4.H.6.....4..HHH.6A...4.4..........4.."),
    ('ช', "H.846.76.68H...4...8848HEI6..66.H9Q.K.94.I7.K4.6Kb4MT.M6A.B7A64.AQH..D.."),
    ('ซ', "D.669.A7.69.4..6..468466K66..794E694E.86498.K6.BNT6OSH8BH.H8H66.8B9..F.."),
    ('ฌ', ".................................................H......................"),
    ('ญ', "E.6.4.4I..4.I......44...64......646H6.6..4..6..47I.MB..46.6.4....MH..6.."),
    ('ฎ', "4.H.....................4.........H.............4I.44.....4..........4.."),
    ('ฏ', "6.4................44...6.......446.6.4..4..6..469.S6..44.6......4...6.."),
    ('ฐ', "E.8.6.64.46........67.4.9HA..44.778.9.8..64.C..79R.B8.467.IA8...466..9.."),
    ('ฑ', "4...6............................................H.48..................."),
    ('ฒ', "........................H........................4......................"),
    ('ณ', "G.H.Q.4...4........46.4.744.....66D.7.6..46.7..679.66..H6.746....44..M.."),
    ('ด', "Z.66A.MJ.8A.6.46..4J6466M8H..H74KHQ48.N64I8.TM..EXHSY4B6H.FB9MHHMHM..Q.."),
    ('ต', "N.R6B.B9.88.4.47..689HA6KHA4.686CNg49.H66GA.M7.TPRHdG69PI.IDA68.8TV..Q.."),
    ('ถ', "E.6.4.4..44........46.4.H94.....667.7.7..44.6..6HN.68HHI6.744....6H..H.."),
    ('ท', "B.B48.86.78....4..4IA46NBN7..H648QY.B.6JH8H.F6.MTR4RV.7QA.B7686.6H8..C.."),
    ('ธ', "E.7.6.64.46........66.7.864...4.7HQ.8.7..64.J..6IT.O8.4H7.8H6....64..N.."),
    ('น', "r.Q9XH.M4EJ.9469..7ZY7ZTRNK64R87PMA6D.PI7MJ.aC.JVh8SjHRNE.aNKRK.AMX44B.."),
    ('บ', "P.B6Q.6B.66.4..6..4IG4H6KI8.H67I88T4Q.664A8.M6.BRb6KQ48eN.I6D66.7BH..6.."),
    ('ป', "G.C48.86.9B...S4..4IG4H498A..664B9d.R.B4467.I6.9DO4DK.7D9.C9E66.Q68..H.."),
    ('ผ', "6.4.................4...6.......446.M.4.....4..468.M6H.4S.6......H...6.."),
    ('ฝ', "6.4.....................4.......4.B.4.4.....4...87.66H..H.4......H...4.."),
    ('พ', "F.6.7.H6.Q7....4...78.6.I7H..44.JNTTN.HH.76.C4.HTB.SI66IN.B66.4.4H6..B.."),
    ('ฟ', "F.B.7.76.67....4...86.64B66..66.68N.J.9..B6.G4.8NF4J6.6J6.669.4.476..6.."),
    ('ภ', "8.6.4.4..64........46.4.744.....66H.7.6..44.H..6Hd.88..6R.744....64..7.."),
    ('ม', "c.L7B.884AB.6.476.I6O6IHRJJ44A9I.MP4C..6IBQ.U8.6Kk7SX6XNR.OML68.CbN....."),
    ('ย', "h.B6A.O8.98.4.47..6IE686e664878IA6L4E.I64CI.M7.6Ja6FD48LG.UBI8H.7I6..Z.."),
    ('ร', "a.P8H.NI468.6.6R..ONOHJMJQP64IAHU8Z68.EM6BI.I6.gdn8do6TPM.SID76.BJO44r.."),
    ('ฤ', "6.6.4.....4.......6CI...64......446.6.6IK4I.6..469.77..44.6......4...6.."),
    ('ล', "S.O68.JB4ID.6.69..7BE768RP664686EII6P.K77L..I6.aU/MUV6I8R.KIG6B.INQ44N.."),
    ('ฦ', "........................................................................"),
    ('ว', "U.J76.NA4BB.6.48..6BE796PJ8449969RN6u.97686.H8.8me7VM6B6..GJJ76.9SH4.K.."),
    ('ศ', "J.7.H.4I.46........66.4.664.....66Q.7.7.BB4.7..6HR.99.4I6.844....64..8.."),
    ('ษ', "E.6.6.4...4..H66..I46.4.744....I8M9.7.6..4..68.67R.88..46.7.I....44..7.."),
    ('ส', "K.M6G.L768C.4.46..4MMN8HMN9H.786NBR4A.Q648F.Q6.IRY6bc48V8.MBG6C.7H9..L.."),
    ('ห', "..H48.66.78.V..4..48H474Y86..666b6T.Y.N4.87.B4.9TZ466.69A..7846.IJM..H.."),
    ('ฬ', "4........................................H.......H.4...................."),
    ('อ', "T.XHN.hD4HB.6.68..7BG7IBdT9H46KMPXc6V.J76S6.U8.FUWMSJ6MSF.PBK69.J6.46..."),
    ('ฮ', "7.8.6.64.46........8B.6.986..44.876.6.9..64.E..7KH.EDH486.A68.4.4J6..6.."),
    ('ฯ', "........................................................................"),
    ('ะ', "M.A6O.8H6B8.4.46..4IB466KK9..ID4NI64A.V64HK.I6.4.A........eKF6DH........"),
    ('\u0e31', "..Y7D.cI4J..9.6Q.H6aU7J7wPB44HB7OW66K.P76TB..8.............B.78..EV....."),
    ('า', "o.bBe.gP7VP.M6866.GYbBUErUH7IUP6kisCa.c6RWRHTG.S..4.......eNRONH........"),
    ('ำ', "K.6.4.4..44........46.4.MHH..I..667.7.7..4H.7....4........QM6..........."),
    ('\u0e34', "N.a8A.VJ4N9.M46H..7RdIT9fTM646E6NDM7N.PQHQJ6A8............PJN66..QJ..H.."),
    ('\u0e35', "e.LM8..64IE.7469H.7IA79HW89H4BCIIpP6E.J67O6HOA............WLH9I..dV....."),
    ('\u0e36', "4.H.6.H...4........H4...64......446.6.6..4..6.............6......MH..4.."),
    ('\u0e37', "9.9.7.76.67....4...78.64B76..44.9AB.B.A..76.h4............A66.4..XN..8.."),
    ('\u0e38', "7.S6I.H7.8D.4..6..SRO4INLH8H.774OBe4I..4MD8..6............B7P4H..N6..H.."),
    ('\u0e39', "K.O6B.I8.CA.4.97..6KA686MCE4.666J6O4E.C66A9.D6............T6B6A..QT.6..."),
    ('\u0e3a', "........................................................................"),
    ('เ', "..fZM.ISJaY.A68.6.BXOBWKYUX87ZEHeNZ9d.wEBTY4VI.................6........"),
    ('แ', "..K6I..94NE.6.47..6KH996JIR44MB6SBA4d.866PN.P8.........................."),
    ('โ', "..THN..64AL.6.688.7PI7K8NKG449A6KBU6R.E77I..OC.........................."),
    ('ใ', "..A4M.7H.M8....4...QQ.64U87..66.98B.B.B4.8V.B4.........................."),
    ('ไ', "..648.96.6E.4..6..46E4K6FHH..6M4X69.C.I44AH.FB.........................."),
    ('ๆ', "K................................................6.44..................."),
    ('\u0e47', "7.R.6.84.46........MI.6.T66..44.879.9.8..66.E.............846....64..7.."),
    ('\u0e48', "V.B4H.bI.78....4..49AH74bHB..664VMI...I4487.cH.H.n6.......NA.68........."),
    ('\u0e49', "V.9.7.TI.H7....4...78.64V76..44.98B.B.Q..6J.c4.6.dQ.......H8IM6........."),
    ('\u0e4a', "6..............................................H.A........6............."),
    ('\u0e4b', "4................................................I........4............."),
    ('\u0e4c', "j.N6D.BE.8F.4.47..6HI6KHHEA468A6G6G4D.C66P9.B9.A..4.......VTE9D........."),
    ('\u0e4d', "........................................................................"),
    ('\u0e4e', "........................................................................")]

end StyleCheck.Charset.Alphabet
