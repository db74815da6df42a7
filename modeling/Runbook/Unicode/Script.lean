import Runbook.Unicode.Runs

/-! # Scripts

The script of every code point, after Unicode 16, as runs of a four-letter script code and a number
of code points in base 36.
-/
namespace Runbook.Unicode

def scriptRuns : RunTable Text := RunTable.ofRuns (readRuns 4 (rows [
  "Zyyy1tLatnqZyyy6LatnqZyyy1bLatn1ZyyyfLatn1Zyyy5LatnnZyyy1LatnvZyyy1LatnchZyyy13Latn5Zyyy5Bopo2",
  "ZyyykZinh34Grek4Zyyy1Grek3Zzzz2Grek4Zyyy1Grek1Zzzz4Grek1Zyyy1Grek1Zyyy1Grek3Zzzz1Grek1Zzzz1",
  "GrekkZzzz1Grek1rCopteGrekgCyrl3pZinh2Cyrl4pZzzz1Armn12Zzzz2Armn1eZzzz2Armn3Zzzz1Hebr1jZzzz8",
  "HebrrZzzz4Hebr6ZzzzbArab5Zyyy1Arab6Zyyy1ArabeZyyy1Arab3Zyyy1ArabwZyyy1ArabaZinhbArabqZinh1",
  "Arab30Zyyy1ArabySyrceZzzz1Syrc1oZzzz2Syrc3Arab1cThaa1eZzzzeNkoo1nZzzz2Nkoo3Samr1aZzzz2Samrf",
  "Zzzz1MandsZzzz2Mand1Zzzz1SyrcbZzzz5ArabvZzzz1Arab2Zzzz5Arab23Zyyy1ArabtDeva29Zinh4DevafZyyy2",
  "DevaqBeng4Zzzz1Beng8Zzzz2Beng2Zzzz2BengmZzzz1Beng7Zzzz1Beng1Zzzz3Beng4Zzzz2Beng9Zzzz2Beng2",
  "Zzzz2Beng4Zzzz8Beng1Zzzz4Beng2Zzzz1Beng5Zzzz2BengpZzzz2Guru3Zzzz1Guru6Zzzz4Guru2Zzzz2Gurum",
  "Zzzz1Guru7Zzzz1Guru2Zzzz1Guru2Zzzz1Guru2Zzzz2Guru1Zzzz1Guru5Zzzz4Guru2Zzzz2Guru3Zzzz3Guru1",
  "Zzzz7Guru4Zzzz1Guru1Zzzz7GuruhZzzzaGujr3Zzzz1Gujr9Zzzz1Gujr3Zzzz1GujrmZzzz1Gujr7Zzzz1Gujr2",
  "Zzzz1Gujr5Zzzz2GujraZzzz1Gujr3Zzzz1Gujr3Zzzz2Gujr1ZzzzfGujr4Zzzz2GujrcZzzz7Gujr7Zzzz1Orya3",
  "Zzzz1Orya8Zzzz2Orya2Zzzz2OryamZzzz1Orya7Zzzz1Orya2Zzzz1Orya5Zzzz2Orya9Zzzz2Orya2Zzzz2Orya3",
  "Zzzz7Orya3Zzzz4Orya2Zzzz1Orya5Zzzz2OryaiZzzzaTaml2Zzzz1Taml6Zzzz3Taml3Zzzz1Taml4Zzzz3Taml2",
  "Zzzz1Taml1Zzzz1Taml2Zzzz3Taml2Zzzz3Taml3Zzzz3TamlcZzzz4Taml5Zzzz3Taml3Zzzz1Taml4Zzzz2Taml1",
  "Zzzz6Taml1ZzzzeTamllZzzz5TeludZzzz1Telu3Zzzz1TelunZzzz1TelugZzzz2Telu9Zzzz1Telu3Zzzz1Telu4",
  "Zzzz7Telu2Zzzz1Telu3Zzzz2Telu1Zzzz2Telu4Zzzz2TeluaZzzz7Telu9KndadZzzz1Knda3Zzzz1KndanZzzz1",
  "KndaaZzzz1Knda5Zzzz2Knda9Zzzz1Knda3Zzzz1Knda4Zzzz7Knda2Zzzz6Knda2Zzzz1Knda4Zzzz2KndaaZzzz1",
  "Knda3ZzzzcMlymdZzzz1Mlym3Zzzz1Mlym1fZzzz1Mlym3Zzzz1Mlym6Zzzz4MlymgZzzz2MlymqZzzz1Sinh3Zzzz1",
  "SinhiZzzz3SinhoZzzz1Sinh9Zzzz1Sinh1Zzzz2Sinh7Zzzz3Sinh1Zzzz4Sinh6Zzzz1Sinh1Zzzz1Sinh8Zzzz6",
  "SinhaZzzz2Sinh3ZzzzcThai1mZzzz4Zyyy1ThaisZzzz11Laoo2Zzzz1Laoo1Zzzz1Laoo5Zzzz1LaoooZzzz1Laoo1",
  "Zzzz1LaoonZzzz2Laoo5Zzzz1Laoo1Zzzz1Laoo7Zzzz1LaooaZzzz2Laoo4ZzzzwTibt20Zzzz1Tibt10Zzzz4Tibt13",
  "Zzzz1Tibt10Zzzz1TibtfZzzz1Tibt7Zyyy4Tibt2Zzzz11Mymr4gGeor12Zzzz1Geor1Zzzz5Geor1Zzzz2Geor17",
  "Zyyy1Geor4Hang74Ethi21Zzzz1Ethi4Zzzz2Ethi7Zzzz1Ethi1Zzzz1Ethi4Zzzz2Ethi15Zzzz1Ethi4Zzzz2Ethix",
  "Zzzz1Ethi4Zzzz2Ethi7Zzzz1Ethi1Zzzz1Ethi4Zzzz2EthifZzzz1Ethi1lZzzz1Ethi4Zzzz2Ethi1vZzzz2Ethiw",
  "Zzzz3EthiqZzzz6Cher2eZzzz2Cher6Zzzz2CanshsOgamtZzzz3Runr23Zyyy3RunrbZzzz7TglgmZzzz9Tglg1Hanol",
  "Zyyy2Zzzz9BuhdkZzzzcTagbdZzzz1Tagb3Zzzz1Tagb2ZzzzcKhmr2mZzzz2KhmraZzzz6KhmraZzzz6Mong2Zyyy2",
  "Mong1Zyyy1MongkZzzz6Mong2hZzzz7Mong17Zzzz5Cans1yZzzzaLimbvZzzz1LimbcZzzz4LimbcZzzz4Limb1Zzzz3",
  "LimbcTaleuZzzz2Tale5ZzzzbTalu18Zzzz4TaluqZzzz6TalubZzzz3Talu2KhmrwBugisZzzz2Bugi2Lana1rZzzz1",
  "LanatZzzz2LanabZzzz6LanaaZzzz6LanaeZzzz2ZinhvZzzz1dBali25Zzzz1Bali1eSund1sBatk1gZzzz8Batk4",
  "Lepc1kZzzz3LepcfZzzz3Lepc3Olck1cCyrlbZzzz5Geor17Zzzz2Geor3Sund8Zzzz8Zinh3Zyyy1ZinhdZyyy1Zinh7",
  "Zyyy4Zinh1Zyyy6Zinh1Zyyy3Zinh2Zyyy1Zzzz5Latn12Grek5Cyrl1Latn1dGrek5Latn4Grek5LatndCyrl1Latn1y",
  "Grek1Zinh1sLatn74GrekmZzzz2Grek6Zzzz2Grek12Zzzz2Grek6Zzzz2Grek8Zzzz1Grek1Zzzz1Grek1Zzzz1Grek1",
  "Zzzz1GrekvZzzz2Grek1hZzzz1GrekfZzzz1GrekeZzzz2Grek6Zzzz1GrekjZzzz2Grek3Zzzz1Grek9Zzzz1Zyyyc",
  "Zinh2Zyyy2fZzzz1ZyyybLatn1Zzzz2ZyyybLatn1ZyyyfZzzz1LatndZzzz3ZyyyxZzzzfZinhxZzzzfZyyy12Grek1",
  "Zyyy3Latn2Zyyy6Latn1ZyyyrLatn1ZyyyhLatn15Zyyy3Zzzz4ZyyyiiZzzzmZyyybZzzzlZyyypsBrai74Zyyyhg",
  "Zzzz2ZyyywZzzz1Zyyy2xGlag2oLatnwCopt38Zzzz5Copt7Geor12Zzzz1Geor1Zzzz5Geor1Zzzz2Tfng1kZzzz7",
  "Tfng2ZzzzeTfng1EthinZzzz9Ethi7Zzzz1Ethi7Zzzz1Ethi7Zzzz1Ethi7Zzzz1Ethi7Zzzz1Ethi7Zzzz1Ethi7",
  "Zzzz1Ethi7Zzzz1CyrlwZyyy2mZzzzyHaniqZzzz1Hani2hZzzzcHani5yZzzzqZyyylHani1Zyyy1Hani1ZyyypHani9",
  "Zinh4Hang2Zyyy8Hani4Zyyy4Zzzz1Hira2eZzzz2Zinh2Zyyy2Hira3Zyyy1Kana2iZyyy2Kana3Zzzz5Bopo17Zzzz1",
  "Hang2mZzzz1ZyyygBopowZyyy12Zzzz9Zyyy1KanagHangvZzzz1Zyyy1sHangvZyyy29Kana1bZyyy1Kana2gZyyy4o",
  "Hani534Zyyy1sHanig74YiiiwdZzzz3Yiii1jZzzz9Lisu1cVaii8cZzzzkCyrl2oBamu2gZzzz8ZyyyyLatn2uZyyy3",
  "Latn1vZzzz2Latn2Zzzz1Latn1Zzzz1Latn8ZzzzlLatneSylo19Zzzz3ZyyyaZzzz6Phag1kZzzz8Saur1yZzzz8Saurc",
  "Zzzz6DevawKali1aZyyy1Kali1Rjng10ZzzzbRjng1HangtZzzz3Java26Zzzz1Zyyy1JavaaZzzz4Java2MymrvZzzz1",
  "Cham1jZzzz9ChameZzzz2ChamaZzzz2Cham4MymrwTavt1vZzzzoTavt5MteinZzzzaEthi6Zzzz2Ethi6Zzzz2Ethi6",
  "Zzzz9Ethi7Zzzz1Ethi7Zzzz1Latn17Zyyy1Latn9Grek1Latn4Zyyy2Zzzz4Cher28Mtei1aZzzz2MteiaZzzz6",
  "Hang8mcZzzzcHangnZzzz4Hang1dZzzz6isHania6Zzzz2Hani2yZzzz12Latn7ZzzzcArmn5Zzzz5HebrqZzzz1Hebr5",
  "Zzzz1Hebr1Zzzz1Hebr2Zzzz1Hebr2Zzzz1HebraArab37ZzzzgAraba3Zyyy2Arab28Zzzz2Arab1iZzzz7Arab1Zzzzw",
  "ArabgZinhgZyyyaZzzz6ZinheCyrl2ZyyyzZzzz1ZyyyjZzzz1Zyyy4Zzzz4Arab5Zzzz1Arab3rZzzz2Zyyy1Zzzz1",
  "ZyyywLatnqZyyy6LatnqZyyybKanaaZyyy1Kana19Zyyy2HangvZzzz3Hang6Zzzz2Hang6Zzzz2Hang6Zzzz2Hang3",
  "Zzzz3Zyyy7Zzzz1Zyyy7ZzzzaZyyy5Zzzz2LinbcZzzz1LinbqZzzz1LinbjZzzz1Linb2Zzzz1LinbfZzzz2Linbe",
  "ZzzzyLinb3fZzzz5Zyyy3Zzzz4Zyyy19Zzzz3Zyyy9Grek27Zzzz1ZyyydZzzz3Grek1Zzzz1bZyyy19Zinh1Zzzz3m",
  "LycitZzzz3Cari1dZzzzfZinh1ZyyyrZzzz4Ital10Zzzz9Ital3GothrZzzz5Perm17Zzzz5UgaruZzzz1Ugar1Xpeo10",
  "Zzzz4XpeoeZzzz16Dsrt28Shaw1cOsmauZzzz2OsmaaZzzz6Osge10Zzzz4Osge10Zzzz4Elba14Zzzz8Aghb1gZzzzb",
  "Aghb1VithbZzzz1VithfZzzz1Vith7Zzzz1Vith2Zzzz1VithbZzzz1VithfZzzz1Vith7Zzzz1Vith2Zzzz3Todr1g",
  "ZzzzcLina8nZzzz9LinamZzzzaLina8ZzzzoLatn6Zzzz1Latn16Zzzz1Latn9Zzzz1xCprt6Zzzz2Cprt1Zzzz1Cprt18",
  "Zzzz1Cprt2Zzzz3Cprt1Zzzz2Cprt1ArmimZzzz1Armi9PalmwNbatvZzzz8Nbat9Zzzz1cHatrjZzzz1Hatr2Zzzz5",
  "Hatr5PhnxsZzzz3Phnx1LydiqZzzz5Lydi1Zzzz1sMerowMercoZzzz4MerckZzzz2Merc1aKhar4Zzzz1Khar2Zzzz5",
  "Khar8Zzzz1Khar3Zzzz1KhartZzzz2Khar3Zzzz4KharaZzzz7Khar9Zzzz7SarbwNarbwZzzzwMani13Zzzz4Manic",
  "Zzzz9Avst1iZzzz3Avst7PrtimZzzz2Prti8PhlijZzzz5Phli8PhlpiZzzz7Phlp4ZzzzcPhlp7Zzzz28Orkh21Zzzz1j",
  "Hung1fZzzzdHung1fZzzz7Hung6Rohg14Zzzz8RohgaZzzz6Gara12Zzzz3GaratZzzz8Gara2Zzzz5sArabvZzzz1",
  "Yezi16Zzzz1Yezi3Zzzz2Yezi2ZzzzgArab3Zzzz1jArab4Sogo14Zzzz8Sogd16ZzzzmOugrqZzzz12ChrssZzzzk",
  "ElymnZzzz9Brah26Zzzz4Brah10Zzzz9Brah1Kthi1vZzzzaKthi1Zzzz2SorapZzzz7SoraaZzzz6Cakm1hZzzz1Cakmi",
  "Zzzz8Mahj13Zzzz9Shrd2oZzzz1SinhkZzzzbKhojiZzzz1Khoj1bZzzz1qMult7Zzzz1Mult1Zzzz1Mult4Zzzz1Multf",
  "Zzzz1MultbZzzz6Sind1nZzzz5SindaZzzz6Gran4Zzzz1Gran8Zzzz2Gran2Zzzz2GranmZzzz1Gran7Zzzz1Gran2",
  "Zzzz1Gran5Zzzz1Zinh1Gran9Zzzz2Gran2Zzzz2Gran3Zzzz2Gran1Zzzz6Gran1Zzzz5Gran7Zzzz2Gran7Zzzz3",
  "Gran5ZzzzbTutgaZzzz1Tutg1Zzzz2Tutg1Zzzz1Tutg12Zzzz1TutgaZzzz1Tutg1Zzzz2Tutg1Zzzz1Tutg4Zzzz1",
  "TutgaZzzz1Tutg2Zzzz8Tutg2ZzzztNewa2kZzzz1Newa5ZzzzuTirh20Zzzz8TirhaZzzz4mSidd1iZzzz2Sidd12",
  "ZzzzyModi1xZzzzbModiaZzzz6MongdZzzzjTakr1mZzzz6TakraZzzz6MymrkZzzzsAhomrZzzz2AhomfZzzz4Ahomn",
  "Zzzz55Dogr1oZzzz2sWara2bZzzzcWara1Diak7Zzzz2Diak1Zzzz2Diak8Zzzz1Diak2Zzzz1DiakuZzzz1Diak2Zzzz2",
  "DiakcZzzz9DiakaZzzz1yNand8Zzzz2Nand1aZzzz2NandbZzzzrZanb20Zzzz8Soyo2bZzzzdCansgPauc1lZzzz7",
  "DevaaZzzz52SunuyZzzzeSunuaZzzz6Bhks9Zzzz1Bhks19Zzzz1BhkseZzzzaBhkstZzzz3MarcwZzzz2MarcmZzzz1",
  "MarceZzzz21Gonm7Zzzz1Gonm2Zzzz1Gonm18Zzzz3Gonm1Zzzz1Gonm2Zzzz1Gonm9Zzzz8GonmaZzzz6Gong6Zzzz1",
  "Gong2Zzzz1Gong11Zzzz1Gong2Zzzz1Gong6Zzzz7GongaZzzz8mMakapZzzz7KawihZzzz1Kawi15Zzzz3KawitZzzz2d",
  "Lisu1ZzzzfTaml1eZzzzdTaml1XsuxpmZzzz2uXsux33Zzzz1Xsux5ZzzzbXsux5gZzzz218Cpmn2rZzzzdEgypuuZzzza",
  "Egyp32zZzzz5Hluwg7Zzzz5a1Gukh1mZzzz1c6BamuftZzzz7MroovZzzz1MrooaZzzz4Mroo2Tnsa27Zzzz1Tnsaa",
  "Zzzz6BassuZzzz2Bass6ZzzzaHmng1yZzzzaHmngaZzzz1Hmng7Zzzz1HmnglZzzz5HmngjZzzzc0Krai1mZzzz5i",
  "Medf2jZzzz2tPlrd23Zzzz4Plrd1lZzzz7PlrdhZzzz1sTang1Nshu1Hani2Kits1ZzzzbHani2ZzzzeTang4qgZzzz8",
  "TanglcKitsd2Zzzz15Kits1Tang9Zzzz6w7Kana4Zzzz1Kana7Zzzz1Kana2Zzzz1Kana1Hira7zKana3ZzzzfHira1",
  "ZzzztHira3Zzzz2Kana1ZzzzeKana4Zzzz8Nshub0Zzzz1s4Dupl2zZzzz5DupldZzzz3Dupl9Zzzz7DuplaZzzz2Dupl4",
  "Zyyy4Zzzz318Zyyy6yZzzz6Zyyyc4Zzzz24Zinh1aZzzz2ZinhnZzzz9Zyyy38Zzzz1oZyyy6uZzzzaZyyy13Zzzz2",
  "Zyyy1qZinh3ZyyyhZinh8Zyyy2Zinh7ZyyyuZinh4Zyyy1pZzzzlGrek1yZzzz3eZyyykZzzzcZyyykZzzzcZyyy2f",
  "Zzzz9ZyyypZzzz3rZyyy2dZzzz1Zyyy1zZzzz1Zyyy2Zzzz2Zyyy1Zzzz2Zyyy2Zzzz2Zyyy4Zzzz1ZyyycZzzz1Zyyy1",
  "Zzzz1Zyyy7Zzzz1Zyyy1tZzzz1Zyyy4Zzzz2Zyyy8Zzzz1Zyyy7Zzzz1ZyyysZzzz1Zyyy4Zzzz1Zyyy5Zzzz1Zyyy1",
  "Zzzz3Zyyy7Zzzz1Zyyy9gZzzz2Zyyy84Zzzz2Zyyy1eSgnwi4ZzzzfSgnw5Zzzz1SgnwfZzzzuoLatnvZzzz6Latn6",
  "Zzzz5xGlag7Zzzz1GlaghZzzz2Glag7Zzzz1Glag2Zzzz1Glag5Zzzz5Cyrl1qZzzzxCyrl1Zzzz34Hmnp19Zzzz3Hmnpe",
  "Zzzz2HmnpaZzzz4Hmnp2Zzzz8wTotovZzzzhWcho1mZzzz5Wcho1ZzzzcwNagm16Zzzz5yOnao17Zzzz4Onao1Zzzzdc",
  "Ethi7Zzzz1Ethi4Zzzz1Ethi2Zzzz1EthifZzzz1Mend5hZzzz2MendgZzzz15Adlm24Zzzz4AdlmaZzzz4Adlm2Zzzzlt",
  "Zyyy1wZzzz24Zyyy1pZzzz5eArab4Zzzz1ArabrZzzz1Arab2Zzzz1Arab1Zzzz2Arab1Zzzz1ArabaZzzz1Arab4Zzzz1",
  "Arab1Zzzz1Arab1Zzzz6Arab1Zzzz4Arab1Zzzz1Arab1Zzzz1Arab1Zzzz1Arab3Zzzz1Arab2Zzzz1Arab1Zzzz2",
  "Arab1Zzzz1Arab1Zzzz1Arab1Zzzz1Arab1Zzzz1Arab1Zzzz1Arab2Zzzz1Arab1Zzzz2Arab4Zzzz1Arab7Zzzz1",
  "Arab4Zzzz1Arab4Zzzz1Arab1Zzzz1ArabaZzzz1ArabhZzzz5Arab3Zzzz1Arab5Zzzz1ArabhZzzz1gArab2Zzzz7i",
  "Zyyy18Zzzz4Zyyy2sZzzzcZyyyfZzzz2ZyyyfZzzz1ZyyyfZzzz1Zyyy11ZzzzaZyyy4uZzzz1kZyyyqHira1Zyyy2",
  "ZzzzdZyyy18Zzzz4Zyyy9Zzzz7Zyyy2ZzzzeZyyy6Zzzz4aZyyyrcZzzz4ZyyyhZzzz3ZyyydZzzz3Zyyy3bZzzz4",
  "Zyyy2nZzzz6ZyyycZzzz4Zyyy1ZzzzfZyyycZzzz4Zyyy1kZzzz8ZyyyaZzzz6Zyyy14Zzzz8ZyyyuZzzz2ZyyycZzzz4",
  "Zyyy2Zzzz1qZyyy9gZzzzcZyyyeZzzz2ZyyydZzzz3ZyyyaZzzz5Zyyy1kZzzz7ZyyyfZzzz2ZyyybZzzz6Zyyy9Zzzz7",
  "Zyyy43Zzzz1Zyyy2uZzzzsmHaniwyoZzzzwHani37eZzzz6Hani66Zzzz2Hani4g2ZzzzeHani5rlZzzzfHaniha",
  "Zzzz1wiHanif2Zzzz15uHani3t7Zzzz5Hani38gZzzzf975Zyyy1ZzzzuZyyy2oZzzz3kZinh6oZzzz47bk"]))

def scriptNames : List (Text × List Text) :=
  [ ("Adlm", ["adlm", "adlam"])
    , ("Ahom", ["ahom"])
    , ("Hluw", ["hluw", "anatolianhieroglyphs"])
    , ("Arab", ["arab", "arabic"])
    , ("Armn", ["armn", "armenian"])
    , ("Avst", ["avst", "avestan"])
    , ("Bali", ["bali", "balinese"])
    , ("Bamu", ["bamu", "bamum"])
    , ("Bass", ["bass", "bassavah"])
    , ("Batk", ["batk", "batak"])
    , ("Beng", ["beng", "bengali"])
    , ("Bhks", ["bhks", "bhaiksuki"])
    , ("Bopo", ["bopo", "bopomofo"])
    , ("Brah", ["brah", "brahmi"])
    , ("Brai", ["brai", "braille"])
    , ("Bugi", ["bugi", "buginese"])
    , ("Buhd", ["buhd", "buhid"])
    , ("Cans", ["cans", "canadianaboriginal"])
    , ("Cari", ["cari", "carian"])
    , ("Aghb", ["aghb", "caucasianalbanian"])
    , ("Cakm", ["cakm", "chakma"])
    , ("Cham", ["cham"])
    , ("Cher", ["cher", "cherokee"])
    , ("Chrs", ["chrs", "chorasmian"])
    , ("Zyyy", ["zyyy", "common"])
    , ("Copt", ["copt", "coptic", "qaac"])
    , ("Xsux", ["xsux", "cuneiform"])
    , ("Cprt", ["cprt", "cypriot"])
    , ("Cpmn", ["cpmn", "cyprominoan"])
    , ("Cyrl", ["cyrl", "cyrillic"])
    , ("Dsrt", ["dsrt", "deseret"])
    , ("Deva", ["deva", "devanagari"])
    , ("Diak", ["diak", "divesakuru"])
    , ("Dogr", ["dogr", "dogra"])
    , ("Dupl", ["dupl", "duployan"])
    , ("Egyp", ["egyp", "egyptianhieroglyphs"])
    , ("Elba", ["elba", "elbasan"])
    , ("Elym", ["elym", "elymaic"])
    , ("Ethi", ["ethi", "ethiopic"])
    , ("Gara", ["gara", "garay"])
    , ("Geor", ["geor", "georgian"])
    , ("Glag", ["glag", "glagolitic"])
    , ("Goth", ["goth", "gothic"])
    , ("Gran", ["gran", "grantha"])
    , ("Grek", ["grek", "greek"])
    , ("Gujr", ["gujr", "gujarati"])
    , ("Gong", ["gong", "gunjalagondi"])
    , ("Guru", ["guru", "gurmukhi"])
    , ("Gukh", ["gukh", "gurungkhema"])
    , ("Hani", ["hani", "han"])
    , ("Hang", ["hang", "hangul"])
    , ("Rohg", ["rohg", "hanifirohingya"])
    , ("Hano", ["hano", "hanunoo"])
    , ("Hatr", ["hatr", "hatran"])
    , ("Hebr", ["hebr", "hebrew"])
    , ("Hira", ["hira", "hiragana"])
    , ("Armi", ["armi", "imperialaramaic"])
    , ("Zinh", ["zinh", "inherited", "qaai"])
    , ("Phli", ["phli", "inscriptionalpahlavi"])
    , ("Prti", ["prti", "inscriptionalparthian"])
    , ("Java", ["java", "javanese"])
    , ("Kthi", ["kthi", "kaithi"])
    , ("Knda", ["knda", "kannada"])
    , ("Kana", ["kana", "katakana"])
    , ("Kawi", ["kawi"])
    , ("Kali", ["kali", "kayahli"])
    , ("Khar", ["khar", "kharoshthi"])
    , ("Kits", ["kits", "khitansmallscript"])
    , ("Khmr", ["khmr", "khmer"])
    , ("Khoj", ["khoj", "khojki"])
    , ("Sind", ["sind", "khudawadi"])
    , ("Krai", ["krai", "kiratrai"])
    , ("Laoo", ["laoo", "lao"])
    , ("Latn", ["latn", "latin"])
    , ("Lepc", ["lepc", "lepcha"])
    , ("Limb", ["limb", "limbu"])
    , ("Lina", ["lina", "lineara"])
    , ("Linb", ["linb", "linearb"])
    , ("Lisu", ["lisu"])
    , ("Lyci", ["lyci", "lycian"])
    , ("Lydi", ["lydi", "lydian"])
    , ("Mahj", ["mahj", "mahajani"])
    , ("Maka", ["maka", "makasar"])
    , ("Mlym", ["mlym", "malayalam"])
    , ("Mand", ["mand", "mandaic"])
    , ("Mani", ["mani", "manichaean"])
    , ("Marc", ["marc", "marchen"])
    , ("Gonm", ["gonm", "masaramgondi"])
    , ("Medf", ["medf", "medefaidrin"])
    , ("Mtei", ["mtei", "meeteimayek"])
    , ("Mend", ["mend", "mendekikakui"])
    , ("Merc", ["merc", "meroiticcursive"])
    , ("Mero", ["mero", "meroitichieroglyphs"])
    , ("Plrd", ["plrd", "miao"])
    , ("Modi", ["modi"])
    , ("Mong", ["mong", "mongolian"])
    , ("Mroo", ["mroo", "mro"])
    , ("Mult", ["mult", "multani"])
    , ("Mymr", ["mymr", "myanmar"])
    , ("Nbat", ["nbat", "nabataean"])
    , ("Nagm", ["nagm", "nagmundari"])
    , ("Nand", ["nand", "nandinagari"])
    , ("Talu", ["talu", "newtailue"])
    , ("Newa", ["newa"])
    , ("Nkoo", ["nkoo", "nko"])
    , ("Nshu", ["nshu", "nushu"])
    , ("Hmnp", ["hmnp", "nyiakengpuachuehmong"])
    , ("Ogam", ["ogam", "ogham"])
    , ("Olck", ["olck", "olchiki"])
    , ("Onao", ["onao", "olonal"])
    , ("Hung", ["hung", "oldhungarian"])
    , ("Ital", ["ital", "olditalic"])
    , ("Narb", ["narb", "oldnortharabian"])
    , ("Perm", ["perm", "oldpermic"])
    , ("Xpeo", ["xpeo", "oldpersian"])
    , ("Sogo", ["sogo", "oldsogdian"])
    , ("Sarb", ["sarb", "oldsoutharabian"])
    , ("Orkh", ["orkh", "oldturkic"])
    , ("Ougr", ["ougr", "olduyghur"])
    , ("Orya", ["orya", "oriya"])
    , ("Osge", ["osge", "osage"])
    , ("Osma", ["osma", "osmanya"])
    , ("Hmng", ["hmng", "pahawhhmong"])
    , ("Palm", ["palm", "palmyrene"])
    , ("Pauc", ["pauc", "paucinhau"])
    , ("Phag", ["phag", "phagspa"])
    , ("Phnx", ["phnx", "phoenician"])
    , ("Phlp", ["phlp", "psalterpahlavi"])
    , ("Rjng", ["rjng", "rejang"])
    , ("Runr", ["runr", "runic"])
    , ("Samr", ["samr", "samaritan"])
    , ("Saur", ["saur", "saurashtra"])
    , ("Shrd", ["shrd", "sharada"])
    , ("Shaw", ["shaw", "shavian"])
    , ("Sidd", ["sidd", "siddham"])
    , ("Sgnw", ["sgnw", "signwriting"])
    , ("Sinh", ["sinh", "sinhala"])
    , ("Sogd", ["sogd", "sogdian"])
    , ("Sora", ["sora", "sorasompeng"])
    , ("Soyo", ["soyo", "soyombo"])
    , ("Sund", ["sund", "sundanese"])
    , ("Sunu", ["sunu", "sunuwar"])
    , ("Sylo", ["sylo", "sylotinagri"])
    , ("Syrc", ["syrc", "syriac"])
    , ("Tglg", ["tglg", "tagalog"])
    , ("Tagb", ["tagb", "tagbanwa"])
    , ("Tale", ["tale", "taile"])
    , ("Lana", ["lana", "taitham"])
    , ("Tavt", ["tavt", "taiviet"])
    , ("Takr", ["takr", "takri"])
    , ("Taml", ["taml", "tamil"])
    , ("Tnsa", ["tnsa", "tangsa"])
    , ("Tang", ["tang", "tangut"])
    , ("Telu", ["telu", "telugu"])
    , ("Thaa", ["thaa", "thaana"])
    , ("Thai", ["thai"])
    , ("Tibt", ["tibt", "tibetan"])
    , ("Tfng", ["tfng", "tifinagh"])
    , ("Tirh", ["tirh", "tirhuta"])
    , ("Todr", ["todr", "todhri"])
    , ("Toto", ["toto"])
    , ("Tutg", ["tutg", "tulutigalari"])
    , ("Ugar", ["ugar", "ugaritic"])
    , ("Vaii", ["vaii", "vai"])
    , ("Vith", ["vith", "vithkuqi"])
    , ("Wcho", ["wcho", "wancho"])
    , ("Wara", ["wara", "warangciti"])
    , ("Yezi", ["yezi", "yezidi"])
    , ("Yiii", ["yiii", "yi"])
    , ("Zanb", ["zanb", "zanabazarsquare"]) ].map fun p => (p.1.toList, p.2.map String.toList)

/-- The script code that a name stands for: the name in small letters, without spaces, hyphens or
underscores. -/
def scriptNamed? (name : Text) : Option Text :=
  (scriptNames.find? fun p => p.2.contains name).map fun p => p.1

def hasScript (script : Text) (code : Nat) : Bool := scriptRuns.find? code == some script

end Runbook.Unicode
