import Runbook.Unicode.Runs

/-! # Script extensions

Some characters are used with several scripts, or with another one than their own, after Unicode 16.
A row has the codes of the scripts, four letters each, and the runs of the characters: the first of
a run and how many it has, in base 36. All other characters are used with their own script.
-/
namespace Runbook.Unicode

structure ScriptExtension where
  scripts : List Text
  ranges : List (Nat × Nat)

namespace ScriptExtension

def codesOf : Text → List Text
  | a :: b :: c :: d :: rest => [a, b, c, d] :: codesOf rest
  | _ => []

def rangesOf : List Nat → List (Nat × Nat)
  | first :: count :: rest => (first, first + count - 1) :: rangesOf rest
  | _ => []

def ofRow (row : String × String) : ScriptExtension :=
  ⟨codesOf row.1.toList, rangesOf (readNumbers row.2.toList)⟩

end ScriptExtension

def scriptExtensions : List ScriptExtension := List.map .ofRow [
    ("AvstCariCoptDuplElbaGeorGlagGongGothGrekHaniLatnLydiMahjPermShaw", "53 1"),
    ("BengCyrlDevaLatnLisuThaiToto", "jg 1"),
    ("BopoLatn", "jr 1 jt 3 k9 1"),
    ("LatnLisu", "jx 1"),
    ("LatnThai", "k7 1"),
    ("CherCoptCyrlGrekLatnPermSunuTale", "lc 1"),
    ("CherCyrlGrekLatnOsgeSunuTaleTodr", "ld 1"),
    ("CherCyrlLatnTfng", "le 1"),
    ("GlagLatnSunuSyrcThai", "lf 1"),
    ("AghbCherCoptCyrlGothGrekLatnOsgeSyrcTfngTodr", "lg 1"),
    ("CoptElbaGlagGothKanaLatn", "lh 1"),
    ("CyrlGrekLatnPerm", "li 1"),
    ("CoptDuplHebrLatnPermSyrcTaleTodr", "lj 1"),
    ("ArmnCyrlDuplGothGrekHebrLatnPermSyrcTale", "lk 1"),
    ("LatnTfng", "ll 1"),
    ("DuplLatnSyrc", "lm 1"),
    ("CherCyrlLatnOsge", "ln 1"),
    ("CherLatnTale", "lo 1"),
    ("LatnSunu", "lp 1 ls 1"),
    ("EthiLatn", "lq 1"),
    ("CyrlLatnTodr", "lt 1"),
    ("GrekLatnPermTodr", "lv 1"),
    ("LatnSyrc", "m8 1 md 1 mm 1"),
    ("CherDuplKanaLatnSyrc", "mb 1"),
    ("CherDuplLatnSyrc", "mc 1"),
    ("LatnSunuSyrc", "ml 1"),
    ("CherLatnSyrc", "mo 1"),
    ("AghbCherGothLatnSunuThai", "mp 1"),
    ("Grek", "n6 1 n9 1 5vk 2"),
    ("LatnOsge", "ns 1"),
    ("AghbLatnTodr", "ny 1"),
    ("Latn", "o3 d"),
    ("CoptGrek", "ok 2"),
    ("CyrlPerm", "w3 1"),
    ("CyrlGlag", "w4 1 w7 1 94z 1 wvj 1"),
    ("CyrlLatn", "w5 2"),
    ("ArmnGeorGlag", "13d 1"),
    ("ArabGaraNkooRohgSyrcThaaYezi", "170 1 17f 1"),
    ("ArabSyrcThaa", "17g 1"),
    ("AdlmArabGaraNkooRohgSyrcThaaYezi", "17j 1"),
    ("AdlmArabMandManiOugrPhlpRohgSogdSyrc", "18g 1"),
    ("ArabSyrc", "18r b 19s 1"),
    ("ArabThaaYezi", "19c a"),
    ("ArabRohg", "1ck 1"),
    ("BengDevaGranGujrGuruKndaLatnMlymOryaShrdTamlTeluTirh", "1u9 1"),
    ("BengDevaGranGujrGuruKndaLatnMlymOryaTamlTeluTirh", "1ua 1"),
    ("BengDevaDogrGongGonmGranGujrGuruKndaMahjMlymNandOryaSindSinhSyloTakrTamlTeluTirh", "1us 1"),
    ("BengDevaDogrGongGonmGranGujrGuruKndaLimbMahjMlymNandOryaSindSinhSyloTakrTamlTelu" ++
      "Tirh",
      "1ut 1"),
    ("DevaDogrKthiMahj", "1uu a"),
    ("BengCakmSylo", "1ye a"),
    ("GuruMult", "21y a"),
    ("GujrKhoj", "25i a"),
    ("GranTaml", "2cm e 1ibl 1 1ibn 1 1id7 2 1kuo 2 1kur 1"),
    ("KndaNand", "2jq a"),
    ("CakmMymrTale", "37k a"),
    ("GeorGlagLatn", "3cr 1"),
    ("Runr", "4iz 3"),
    ("BuhdHanoTagbTglg", "4l1 2"),
    ("MongPhag", "4qq 2 4qt 1"),
    ("BengDevaGranKnda", "5ow 1 5oy 1"),
    ("Deva", "5ox 1 5p0 1 5p7 1 5pa 2 5pe 7 5pn 2 5pq 4"),
    ("DevaGran", "5oz 1 5pv 1 5q0 2"),
    ("BengDeva", "5p1 2 5p4 1 5pd 1 5pm 1 5pp 1 5px 2 xdd 1"),
    ("DevaShrd", "5p3 1 5p5 1 5p8 2 5pc 1"),
    ("DevaKndaMlymOryaTamlTelu", "5p6 1"),
    ("DevaNand", "5pl 1"),
    ("BengDevaGranKndaNandOryaTeluTirh", "5pu 1"),
    ("DevaGranKnda", "5pw 1"),
    ("Beng", "5pz 1"),
    ("Nand", "5q2 1"),
    ("CyrlLatnSyrc", "5x4 1"),
    ("Syrc", "5x6 1"),
    ("LatnMongPhag", "6cv 1"),
    ("AdlmArab", "6dr 1"),
    ("CariGeorGlagHungLyciOrkh", "6e2 1"),
    ("CariGrekHungMero", "6e5 1"),
    ("DevaGranLatn", "6i8 1"),
    ("Copt", "93r 1"),
    ("AvstOrkh", "94g 1"),
    ("AvstCariGeorHungKthiLydiSamr", "94h 1"),
    ("Dupl", "94s 1 2fts 4"),
    ("AdlmArabHung", "94x 1"),
    ("HaniTang", "9gw g 9v3 1"),
    ("BopoHangHaniHiraKanaMongPhagTibtYiii", "9hd 1"),
    ("BopoHangHaniHiraKanaMongPhagYiii", "9he 1"),
    ("BopoHangHaniHiraKana", "9hf 1 9hv 1 9i4 4 9io 1 9iv 1 1e85 2"),
    ("Hani",
      "9hi 1 9j2 2 9sg g 9ts 12 9wg 14 9z4 1d a0w c a2n 1 a54 p a63 5 a8w v 2kbk i 2qfk 2"),
    ("BopoHangHaniHiraKanaMongTibtYiii", "9hk 4"),
    ("BopoHangHaniHiraKanaYiii", "9ho 6 9hw 8 9ob 1 1eg1 5"),
    ("BopoHani", "9ii 4"),
    ("HiraKana", "9ip 5 9ll 4 9ls 1 9oc 1 1egg 1 1ehq 2"),
    ("HaniHiraKana", "9j0 2"),
    ("HaniLatn", "wzk 8"),
    ("DevaDogrGujrGuruKhojKndaKthiMahjMlymModiNandSindTakrTirh", "x80 3"),
    ("DevaDogrGujrGuruKhojKndaKthiMahjModiNandSindTakrTirh", "x83 3"),
    ("DevaDogrGujrGuruKhojKthiMahjModiSindTakrTirh", "x86 4"),
    ("DevaTaml", "xdf 1"),
    ("KaliLatnMymr", "xf2 1"),
    ("BugiJava", "xjj 1"),
    ("ArabNkoo", "1e0u 2"),
    ("ArabThaa", "1e5u 1 1e65 1"),
    ("CpmnCprtLinb", "1erk 2"),
    ("CprtLinb", "1erm 1 1et3 9"),
    ("CprtLinaLinb", "1err 19"),
    ("ArabCopt", "1f4w s"),
    ("ManiOugr", "1gqa 1")]

end Runbook.Unicode
