import Runbook.Unicode.Runs

/-! # Ages

The version of Unicode that assigned each code point, up to Unicode 16. The table gives one run
after the other: the place of the version among all, which is zero for none, and how many code
points have it, in base 36.
-/
namespace Runbook.Unicode

def versions : List String :=
  ["1.1", "2.0", "2.1", "3.0", "3.1", "3.2", "4.0", "4.1", "5.0", "5.1", "5.2", "6.0", "6.1", "6.2",
    "6.3", "7.0", "8.0", "9.0", "10.0", "11.0", "12.0", "12.1", "13.0", "14.0", "15.0", "15.1",
    "16.0"]

def ageRuns : RunTable Nat := RunTable.ofRuns <| (readRuns 2 (rows [
  "V1dyV44V1uV48V61V71V4iV73V8bV9eV12hV45V72V11bV41V1aV45V7hV11yV49V61V78V85V73V12V41V6dVa4V12Va2",
  "V02V11V93V11Vg1V04V17V01V11V01V1kV01V118Va1V17V41V62V11V41V11V41V11V41V11V41V1iV52V61V75V84V41",
  "V1cV41V11uV41V1cV41V115Va1V42V62V44V11hV62V12V62V12V62V91V1sV42V18V82V12V96V6gV94VagVb2Vc2Vg8V01",
  "V112V02V17Vk1V113Vk1V11V41V02Vg2Vd1V01V2hV81V2dV1aV91V19V21V83V08V1rV04Vk1V15V0bV74Vd1Vg1Va5V81",
  "V11V79Va5V11Vf1Vo1V81V11Vc1V1qVa5V1jV43V73V86Vc1V1eV62V120V42V15V41V1fV41V1uV72V1aV45V71V4eV01",
  "V4uV73V4rV02V73V8uVaiV41dV61V0eV91nV02Vk3Vb1aV02VbfV01VcsV02Vc1V01VjbV05VovV01Vo2V05Vr1Vo8Vd1Vg1",
  "VdbVg6Vh2Vo1Vi8VnaVobVk1VifVh1VdrVg1Vb1V13V71V11hVc2V1iVb1Vc1V15Vb1Vc2V1pVa2Vc5Vg1Vb2V92V81V92",
  "Vg1V13V01V18V02V12V02V1mV01V17V01V11V03V14V02V11V71V17V02V12V02V13V81V08V11V04V12V01V15V02V1lVb1",
  "Vj2Vk1V02V71V11V71V01V16V04V12V02V1mV01V17V01V12V01V12V01V12V02V11V01V15V04V12V02V13V03Va1V07V14",
  "V01V11V07V1fVa1Vk1V0aV13V01V17V71V11V01V13V01V1mV01V17V01V12V01V15V02V1aV01V13V01V13V02V11V0fV11",
  "V73V02V1aVd1V71V07Vh1Vj6V01V13V01V18V02V12V02V1mV01V17V01V12V01V71V14V02V18Va1V02V12V02V13V07Vn1",
  "V12V04V12V01V13Va2V02V1bV71Vc6V0aV12V01V16V03V13V01V14V03V12V01V11V01V12V03V12V03V13V03V18V81V13",
  "V04V15V03V13V01V14V02Va1V06V11V0eV81V1cV78V05Vg1V13Vk1V18V01V13V01V1nV01V1aVg1V15V02Vo1Va1V17V01",
  "V13V01V14V07V12V01Va2Vh1V02Vo1V02V12Va2V02V1aV07Vl1Va8Vi1Vg1V12Vk1V18V01V13V01V1nV01V1aV01V15V02",
  "V72V17V01V13V01V14V07V12V06Vo1V11V01V12V92V02V1aV01V92Vp1V0cVj1Vg1V12Vn1V18V01V13V01V1nVc1V1gVc1",
  "Vj2Va1V16Va1V01V13V01V14Vc1Vi1V04Vi3V11Vi7Vh1V12Va2V02V1aVa6Vi3Va7V01Vn1V42V01V4iV03V4oV01V49V01",
  "V41V02V47V03V41V04V46V01V41V01V48V06VgaV02V43V0cV11mV04V1tV011V12V01V11V01Vl1V12Vl1V11V01Vl1V11",
  "Vl6V14Vl1V17Vl1V13V01V11V01V11Vl2V12Vl1V1dVl1V13V02V15V01V11V01V16Vp1V01V1aV02V12Vd2V0wV220V01",
  "V2xV41Va2V04V2rVc4V26V41V21V01V2lV43V27V41V21V43V01V4fV01Va1V41V82Va3Vb4Vc2V011V4yVa1V45Va1V42",
  "Va1V47Va3V44Va6V4qVa1sVb4Va2V112V01Vd1V05Vd1V02V113V62V82V11V81Vd3V12iVb5V11wVb5V12aVb6V47V81",
  "V41rV81V41V01V44V02V47V01V41V01V44V02V413V81V41V01V44V02V4vV81V41V01V44V02V47V01V41V01V44V02V47",
  "V81V47V01V4nV81V4vV81V41V01V44V02V47V81V413V81V4jV02Vc2V82V4sV03V8qV06V42dVh1V02Vh6V02Vb1V4hiVb9",
  "V4tV03V429Vg8V07V6dVo1V67Vo1V09Vo1V6nV09V6kV0cV6dV01V63V01V62V0cV42lV71V02V4aV06V7aV06V4fVo1V4a",
  "V06V42gVk1V07V416Va1V05Vb1yV0aV7tVg2V01V7cV04V7cV04V71V03V716V02V75V0bV816Vb2V04V8qV06V8aVb1V03",
  "V82V7wV8sV02V82Vb1rV01VbtV02VbbV06VbaV06VbeV02VgfVn2VoeV01dV924Vo1V01Vr2V919Vo2Vr1Va17Vd3VacVd6",
  "Vc1gV08Vc4Va1kV03VafV03Va1fVi9Vr2V05Vk17V02Vk3Vd8V08VbzVd4Vj1Vg2Vl1V05V730V82gV97VasVgfVj4Vo1Vi1",
  "Vc1Vb1V92V14bV21Va4V12iVa6V1mV02V16V02V112V02V16V02V18V01V11V01V11V01V11V01V1vV02V11hV01V1fV01",
  "V1eV02V16V01V1jV02V13V01V19V01V11bV41V1nV61V46V65V72V82V61V87V65Va1V01Vf4V17V61V02V1rV01V85Vc8",
  "V03V1bV21V31V43V62V84Vb3Vc1Ve1Vg3Vh1Vj1Vo1V0fV1iV42V67V81V94Va1V0fV11lV42V71V81V6fV81V92Va1Vb3",
  "V11cV41V91Va4Vb1Vh2V04V12jV49V6cV16qV6eV11V41V13dV41V61V4uV61gV72V8bV9cVb1VcbVg7Vi4Vj1V111V42Vr3",
  "V0mV1bV0lV13vV6kV71V146V6aV128V48V68V1kV72V62V81V41V12eV42V6cV82V6aV78V8bVa1Vb2V72V8gV91VaaVb3",
  "Va4VbaVc1VbjVc1Vb1Vc4VboVg1V14Vc1V14Vc2V1sVc1V1zVc1V11Vc1V14Vc3V11Vb1V17Vc2V17V6eV1vVc3V1oVc1V1e",
  "Vc1V87V94Vd1Va1Vd1Vc2V6sVa4V6gV474V6e8V7eV86V97Va5V94Va15Vg3Va5Vb5VgqV02VgwV01Vn1VgyVk3VgcVl1Vg8",
  "Vj1VkpVh4VkfVl1V81bVo1V81bVo1V9dVa3Vb1Va3V94Va6Vb2V82zVb7Vd2V05V819V01Vd1V05Vd1V02V81iVd2V07V81",
  "Vc1V0eVc1V8nV09V87V01V87V01V87V01V87V01V87V01V87V01V87V01V87V01VawV8oVa4V82VajVb1VdaVg7Vi2Vj5Vk5",
  "Vl1Vn3VobV0yV4qV01V42hV0cV45yV0qV4cVq4V11kV43V63V41V11V01V12cV62V02V16V62V12mV61V05V114Va1Vj1Vk1",
  "V01V12mV01V1gV4oVc3Vn5V8gVakVr2V09Vq1V6gV1tV72V01V110VbcV71V6fV1sV72V81V11eV6fV1cV74V11bVm1V13b",
  "V74V12rV72V1vV71V452uVnaV71sV1g4mV8mVa8Vb8Vd1Vh9VjlVk5VndVo3V4wdV03V4iV62V4gV61V4cV61V43V61V41",
  "V09Vb1cVa8cV0kVawVc2VaiVd8VasVg6Vh1Vd1Vb2gV08V8nV94Va5V92Va2zVc2Vh1Vc2Vd2VgcVcaVd1Vg3Vi1Vk1Vg2",
  "Vh6Vk2Vl6Vo2Vl5Vn4Vr3V02Vo2V01Vo1V01Vo5Vr3V0lVo3Vn2Vg1Vd2Vc1Va5V818Vn1V03VbaV06V91kV08Va1xVi1V08",
  "VacV06VbsVh2Vk2Va2cV0bVa1VbtV03Vb26V01VbbV04Vb2VgvV01Va1jV09VaeV02VaaV02Va4VbsVg4Vb1vV0oVb5Vdn",
  "V0aVc6V02Vc6V02Vc6V09Vc7V01Vc7V01Vg1cVh4Vg2Vl2Vn4V04Vh28Vb1aV02VbaV06V28mcV0cVbnV04Vb1dV04V21kw",
  "V1566Vd2V61nVb3V02V82yV012V17V0cV15V05V41V1pV01V15V01V11V01V12V01V12V01V130VcgVo1V0gV1a5VogV11s",
  "V02V11iV07Vo1V5wV1cV61V71Vo2V6gV8aV06V14Va3Vg7Vh2V1lV62V72V1aV01V1jV01V14V04V13V61V11V01V13rV02",
  "V11V01V12mV62V12mV03V16V02V16V02V16V02V13V03V17V01V17V0aV43V31V13V7cV01V7qV01V7jV01V72V01V7fV02",
  "V7eV0yV73fV05V73V04V719V03V79V823Vg2Vi2V01VacVn1V03Vg1V01bVa1aV03mVatV03Va1dV0fVgsV04V5vVg1V54",
  "V09Vj3V5rV05Vg17V05V7uV01V71V810V04V8eV016V512V72V512V728V02V7aV06Vi10V04Vi10V04Vg14V08Vg1gV0b",
  "Vg1VobV01VofV01Vo7V01Vo2V01VobV01VofV01Vo7V01Vo2V03Vr1gV0cVg8nV09VgmV0aVg8V0oVo6V01Vo16V01Vo9",
  "V01xV76V02V71V01V718V01V72V03V71V02V71VbmV01Vb9Vg1rV08Vg9V01cVhjV01Vh2V05Vh5V9qVb2V03V91VaqV05",
  "Va1V01sVd1kV04Vh2Vd2VhgV02Vh1aV84V01V82V05V88V01V83V01V8rVk2V02V83V04V89Vk1V07V89V07VbwVgwV0w",
  "Vg13V04VgcV09Vb1iV03VbtV02VbrV05Vb8VgiV07Vg4V0cVg7V028Vb21V01jVh1fV0dVh1fV07Vh6Vk14V08VkaV06Vr12",
  "V03VrtV08Vr2V05sVbvV01Vn16V01Vn3V02Vn2V0gVr3V01jVr1Vp3Vk14V08Vk16V0mVoqV012VnsV0kVlnV09Vc26V04",
  "VcuVo6V09Vg1Vb1uVo1V0aVk1V02VdpV07VdaV06Vd1hV01VdeVk3Vn1V08Vg13V09Vd21Vh4Vg1Vn2VdaVg1Vh5V01Vgk",
  "V0bVgiV01Vg17Vi1Vp3V01qVh7V01Vh1V01Vh4V01VhfV01VhbV06Vg1nV05VgaV06Vh1Vg3V01Vg8V02Vg2V02VgmV01Vg7",
  "V01Vg2V01Vg5V01Vk1Vg9V02Vg2V02Vg3V02Vh1V06Vg1V05Vg7V02Vg7V03Vg5V0bVraV01Vr1V02Vr1V01Vr12V01Vra",
  "V01Vr1V02Vr1V01Vr4V01VraV01Vr2V08Vr2V0tVi2iVn1Vi1V01Vi1Vk1Vl1Vn2V0uVg20V08VgaV04mVg1iV02VgiVhk",
  "V0yVg1xV0bVgaV06VidV0jVd1kVl1Vo1V06VdaV06VrkV0sVhqVk1V02VhfV04VhgVo7V055Vk1oV02sVg2bV0cVg1Vn7V02",
  "Vn1V02Vn8V01Vn2V01VnuV01Vn2V02VncV09VnaV01yVl8V02Vl1aV02VlbV0rVj20V08Vj1gVl2VjnVk1Vj5V0dVogVg1l",
  "V07VpaV052VryV0eVraV06Vi9V01Vi19V01VieV0aVitV03ViwV02VimV01VieV021Vj7V01Vj2V01Vj18V03Vj1V01Vj2",
  "V01Vj9V08VjaV06Vk6V01Vk2V01Vk11V01Vk2V01Vk6V07VkaV08mVkpV07VphV01Vp15V03VpsVr1V02dVn1V0fVl1eV0d",
  "Vl1V9ofVg16Vh1V02uV92rVgcV01V94Vg1V0bVh5gV0218Vo2rV0dVbtrVp1Vl9VptV0aVr32zV05Vhg7V05a1Vr1mV01c6",
  "VcftV07VgvV01VgaV04Vg2Vo27V01VoaV06VguV02Vg6V0aVg1yV0aVgaV01Vg7V01VglV05VgjV0c0Vr1mV05iVk2jV02t",
  "Vd1xVl6V04Vl1Vd1bVl9V07VdhV01sVi1Vj1Vl2Vn1V0bVn2V0eVi4q5Vk5Vl6V08VikzVndfV015Vr1Vn9V06w7Vo4V01",
  "Vo7V01Vo2V01Vc2Vj7xVo4V0fVp1V0tVl3V02Vp1V0eVl4V08Vjb0V01s4Vg2zV05VgdV03Vg9V07VgaV02Vg8V0318Vr6y",
  "V06Vrc4V024Vo1aV02VonV09Vo38V01oV56uV0aV513V02Va1V550VhbVo2V0lV81yV03eVpkV0cVkkV0cV72fV09V9iVk7",
  "V03rV52dV01V51zV01V52V02V51V02V52V02V54V01V5cV01V51V01V54V71V52V01V51tV01V54V02V58V01V57V01V5s",
  "V01V54V01V55V01V51V03V57V01V59eV82V02V582V92V02V51eVhi4V0fVh5V01VhfV0uoVovV06Vp6V05xVi7V01VihV02",
  "Vi7V01Vi2V01Vi5V05Vp1qV0xVp1V034Vl19V03VleV02VlaV04Vl2V08wVovV0hVl1mV05Vl1V0cwVp16V05yVr17V04Vr1",
  "V0dcVo7V01Vo4V01Vo2V01VofV01Vg5hV02VggV015Vi23Vl1V04ViaV04Vi2V0ltVk1wV024Vl1pV05eVd4V01VdrV01Vd2",
  "V01Vd1V02Vd1V01VdaV01Vd4V01Vd1V01Vd1V06Vd1V04Vd1V01Vd1V01Vd1V01Vd3V01Vd2V01Vd1V02Vd1V01Vd1V01Vd1",
  "V01Vd1V01Vd1V01Vd2V01Vd1V02Vd4V01Vd7V01Vd4V01Vd4V01Vd1V01VdaV01VdhV05Vd3V01Vd5V01VdhV01gVd2V07i",
  "Va18V04Va2sV0cVcfV02VceVg1V01VcfV01VcfVgmV0aVbbVg2Vn3VbvVk1Vc1Vb1VcbVb1Vc1Vb1Vc2Vb1Vc3Vb1Vc3Vb5",
  "Vc8Vb1Vc7Vb1VcaVd2Vl1Vn3Vc9Vb1Vc1Vb2Vc2Vb1VcaVb4Vc2Vb1VcaViiVn1V01kVcqVb1Vc2V0dVbyVc9Vi1V04Vb9",
  "V07Vc2V0eVj6V04aVcxVgcVh3Vc6Vg1Vc1yVg1Vh2VckVgcVc11Vg1Vc5Vg4Vh5VgcVchVg7Vh8Vc1rVg1Vc1Vg1Vc52Vg1",
  "Vc4Vg2Vh1Vc1qVg2Vd4Vg7Vh5VcoVgiVi1Vg15Vi1Vg2eVc5Vd1VcgVd1Vc3Vd1Vc1Vd1Vc1Vd1Vc1Vd1Vc3Vd1Vc6Vd2Vc4",
  "Vd1Vc1Vd2Vc4Vd1VccVg2Vh2VcbVg1cVc1yVgaVh1Vi2Vj2Vl1Vn2V04Vp1Vo3VgdV03Vg4Vi3Vj2Vk1Vl1Vn2V03Vc38Vp3",
  "V04Vp5Vg2dVk4Vp1V06VlcV04Vo1V0fVgcV04Vg1kV08VgaV06Vg14V08VguV02Vn2VraV04Vr2V01qVjcVn1Vl3Vh9Vi6",
  "Vj1Vi8Vj8Vi1Vj2VicVl1VicVj1Vk3VifVjdVk5Vl1Vn1Vk4Vn2Vo1Vk1Vl1Vk4Vh5VidVj6VkbVn2Vl6Vn3Vl2VkaVl6Vh1",
  "Vk2Vl8Vn1Vo1Vl3VjnVkpVl2cV0cVkeV02Vl4Vn1Vp3Vl3Vo2V03Vl3Vn4Vp2Vr1V05Vr1Vl6VnjVo4Vp3Vn7Vo4Vp3Vr1",
  "Vp1Vn3Vo3Vr1V07Vp2Vn7Vo3Vp2Vr1V02Vr1Vo8Vp1Vr1V06Vo7Vp2V07Vn43V01Vn1jVr11VnaV0skV22V5wyfVn7Vo2V0w",
  "Vb379Vo4Vp1V06Vc66V02Vh4g2V0eVj5rlV0fVqhaV01wiV5f2V015sV22Vn3t7V05Vp38gV017imV22V01ekeV22V01eke",
  "V22V01ekeV22V01ekeV22V01ekeV22V01ekeV22V01ekeV22V01ekeV22V01ekeV22V01ekeV22V01V51V0uV52oV03kV76o",
  "V01e6mV22t4y"])).map fun r => (number36 (r.1.drop 1), r.2)

/-- The place of a version, which is written with a full stop or as v and the bare digits. -/
def version? (name : Text) : Option Nat :=
  let digits (v : String) : Text := 'v' :: v.toList.filter Char.isDigit
  (versions.findIdx? fun v => v.toList == name || digits v == name).map (· + 1)

def assignedBy (version : Nat) : RunTable Bool :=
  ⟨ageRuns.entries.map fun e => (e.1, 0 < e.2 && e.2 ≤ version), ageRuns.limit⟩

end Runbook.Unicode
