import JavaNaming.Unicode.Named

/-!
# Scripts

Every character belongs to one script. Characters that are used with several scripts belong to the
common or the inherited script, and the script extensions say with which ones they are used.
-/

namespace JavaNaming.Unicode

/-- The scripts. -/
def scripts : List NamedSet := [
  ⟨["adlm", "adlam"],
    "HDEuCxejeb"⟩,
  ⟨["aghb", "caucasianalbanian"],
    "DUXsBzla"⟩,
  ⟨["ahom"],
    "EBRcBacoew"⟩,
  ⟨["arab", "arabic"],
    "CHcebfbnbcbBfbjlzbEdbBhDcBvJgBebbfCwbBcDNTwEkqNycDbcCbhaBgpEiebFeFVnBeCpcCddDGLsdbBabbba" ++
    "cabjbdbabagaeabababcbbbacabababababbbacdbgbdbdbabjbqfcbebqCab"⟩,
  ⟨["armi", "imperialaramaic"],
    "DWBwvbi"⟩,
  ⟨["armn", "armenian"],
    "BZdBlcBxccDOZje"⟩,
  ⟨["avst", "avestan"],
    "DXCyCbdg"⟩,
  ⟨["bali", "balinese"],
    "KFwCybBx"⟩,
  ⟨["bamu", "bamum"],
    "CLCqDjCVCqVw"⟩,
  ⟨["bass", "bassavah"],
    "FHKiBdcf"⟩,
  ⟨["batk", "batak"],
    "KNgBzid"⟩,
  ⟨["beng", "bengali"],
    "DPodbhcbcvbgbaddcicbcdiaebbecy"⟩,
  ⟨["bhks", "bhaiksuki"],
    "EDOiibBsbnkBc"⟩,
  ⟨["bopo", "bopomofo"],
    "BCsbRLxBqEiBf"⟩,
  ⟨["brah", "brahmi"],
    "DZAeCzeBjja"⟩,
  ⟨["brai", "braille"],
    "PDwJv"⟩,
  ⟨["bugi", "buginese"],
    "JWaBbcb"⟩,
  ⟨["buhd", "buhid"],
    "IUyt"⟩,
  ⟨["cakm", "chakma"],
    "DZKaCabr"⟩,
  ⟨["cans", "canadianaboriginal"],
    "HOyYpVoCrDTPqp"⟩,
  ⟨["cari", "carian"],
    "DTYmBw"⟩,
  ⟨["cham"],
    "CMJwCcjncjcd"⟩,
  ⟨["cher", "cherokee"],
    "HLgDhcfCFJeDb"⟩,
  ⟨["chrs", "chorasmian"],
    "DYXcBb"⟩,
  ⟨["copt", "coptic", "qaac"],
    "BMgnPJkElfg"⟩,
  ⟨["cpmn", "cyprominoan"],
    "EKYyDu"⟩,
  ⟨["cprt", "cypriot"],
    "DVZkfcabBrbbdaca"⟩,
  ⟨["cyrl", "cyrillic"],
    "BNkFccGmIVokGeaCyaGFnBfBTOaDrBHEcbDHPgCjBha"⟩,
  ⟨["deva", "devanagari"],
    "DKqDceoczCIJgBfBREmj"⟩,
  ⟨["diak", "divesakuru"],
    "ECKugcachbbbBdbbcljj"⟩,
  ⟨["dogr", "dogra"],
    "ECAyCh"⟩,
  ⟨["dsrt", "deseret"],
    "DUMaDb"⟩,
  ⟨["dupl", "duployan"],
    "GMDsEcfmdihjcd"⟩,
  ⟨["egyp", "egyptianhieroglyphs"],
    "ELDgBQrkFXq"⟩,
  ⟨["elba", "elbasan"],
    "DUVwBn"⟩,
  ⟨["elym", "elymaic"],
    "DYYyw"⟩,
  ⟨["ethi", "ethiopic"],
    "GVgCubdcgbabdcBobdcBgbdcgbabdcobCebdcCocBfdzJVawjgbgbgbgbgbgbgbgBVKcfcfcfjgbgEPYfgbdbbbo"⟩,
  ⟨["gara", "garay"],
    "DXZcBldBcib"⟩,
  ⟨["geor", "georgian"],
    "GHsBlbafacBqbdEJwBqccGEaBlbafa"⟩,
  ⟨["glag", "glagolitic"],
    "QRgDrGIZggbqcgbbbe"⟩,
  ⟨["gong", "gunjalagondi"],
    "EEBwfbbbBkbbbfhj"⟩,
  ⟨["gonm", "masaramgondi"],
    "EDYegbbbBrdabbbiij"⟩,
  ⟨["goth", "gothic"],
    "DUEaBa"⟩,
  ⟨["gran", "grantha"],
    "EADsdbhcbcvbgbbbecicbcccagafgcgde"⟩,
  ⟨["grek", "greek"],
    "BHwdbccdbaeababcbabtbCkopJNqeByeeeDgaMivcfcBlcfchbabababBecCabobncfbsccbiLjaCAJeaBGNiDar" ++
    "aDAXrCr"⟩,
  ⟨["gujr", "gujarati"],
    "DZlcbibcbvbgbbbecjbcbccapdclhg"⟩,
  ⟨["gukh", "gurungkhema"],
    "FDRsCf"⟩,
  ⟨["guru", "gurmukhi"],
    "DUncbfebcvbgbbbbbbcabeebccdahdbahq"⟩,
  ⟨["hang", "hangul"],
    "GLkJvLLebJxDpEjBeCnBeBTAnBcYtQNrmweBwPAiBedfcfcfcc"⟩,
  ⟨["hani", "han"],
    "RPwzbDkmIfBvabaziodBLcJTnCmBFBjBHSiObcEbBSIibmbCCOkCLFbBgGDtgIncINpoLBkpXxDQwUvCFyHHyfGF" ++
    "f"⟩,
  ⟨["hano", "hanunoo"],
    "ITsu"⟩,
  ⟨["hatr", "hatran"],
    "DWIasbbfe"⟩,
  ⟨["hebr", "hebrew"],
    "CCvCciBaefDOVwzbebabbbbbj"⟩,
  ⟨["hira", "hiragana"],
    "SHdDhgcFPEvLasaBdcYMva"⟩,
  ⟨["hluw", "anatolianhieroglyphs"],
    "ESSeWk"⟩,
  ⟨["hmng", "pahawhhmong"],
    "FHMeCrkjbgbufs"⟩,
  ⟨["hmnp", "nyiakengpuachuehmong"],
    "HAEaBsdncjeb"⟩,
  ⟨["hung", "oldhungarian"],
    "DXRsBynByhf"⟩,
  ⟨["ital", "olditalic"],
    "DUCeBjjc"⟩,
  ⟨["java", "javanese"],
    "CMEyCzcjeb"⟩,
  ⟨["kali", "kayahli"],
    "CMAaBtba"⟩,
  ⟨["kana", "katakana"],
    "SKvDlccJgpIaBubDjCZHejbBsCOUcdbgbbbaLbcByaod"⟩,
  ⟨["kawi"],
    "EERwqbBodBc"⟩,
  ⟨["khar", "kharoshthi"],
    "DWTcdbbfhbcbBcccejhi"⟩,
  ⟨["khmr", "khmer"],
    "IXkDpcjgjSsBf"⟩,
  ⟨["khoj", "khojki"],
    "DZTwrbBu"⟩,
  ⟨["kits", "khitansmallscript"],
    "FJIiaKGxSbBpa"⟩,
  ⟨["knda", "kannada"],
    "ETcmbcbwbjbecibcbdhbgbbdcjbc"⟩,
  ⟨["krai", "kiratrai"],
    "FIIiCf"⟩,
  ⟨["kthi", "kaithi"],
    "DZFcCoka"⟩,
  ⟨["lana", "taitham"],
    "JXgCkbBcckgjgn"⟩,
  ⟨["laoo", "lao"],
    "FMvbbabebxbabwcebabgbjcd"⟩,
  ⟨["latn", "latin"],
    "CnzgzBvapafwbBebRgBneJXbBlgBwfdfmbCrCnJvOfanaqmFlbgaBbarBoECtBfBULmDxdCocbbabhvnBFkBqbib" ++
    "dBEDqgBOkzgzDCffbBpbiDDNpBegf"⟩,
  ⟨["lepc", "lepcha"],
    "KPsCddodc"⟩,
  ⟨["limb", "limbu"],
    "JMeBebleleadl"⟩,
  ⟨["lina", "lineara"],
    "DVFsLyjvkh"⟩,
  ⟨["linb", "linearb"],
    "DSYqlbzbsbbbocnBiEs"⟩,
  ⟨["lisu"],
    "CKKuBvBUMaa"⟩,
  ⟨["lyci", "lycian"],
    "DTXgBc"⟩,
  ⟨["lydi", "lydian"],
    "DWKmzfa"⟩,
  ⟨["mahj", "mahajani"],
    "DZNcBm"⟩,
  ⟨["maka", "makasar"],
    "EEQqy"⟩,
  ⟨["mand", "mandaic"],
    "DDgBbca"⟩,
  ⟨["mani", "manichaean"],
    "DXAmBmel"⟩,
  ⟨["marc", "marchen"],
    "EDSqBfcvbn"⟩,
  ⟨["medf", "medefaidrin"],
    "FISeDm"⟩,
  ⟨["mend", "mendekikakui"],
    "HCUyHocp"⟩,
  ⟨["merc", "meroiticcursive"],
    "DWPkxetcBt"⟩,
  ⟨["mero", "meroitichieroglyphs"],
    "DWOeBf"⟩,
  ⟨["mlym", "malayalam"],
    "EYambcbBybcbfepcz"⟩,
  ⟨["modi"],
    "EBHgCqlj"⟩,
  ⟨["mong", "mongolian"],
    "JCibcabtgDkhBqDSCbm"⟩,
  ⟨["mroo", "mro"],
    "FHEuBebjeb"⟩,
  ⟨["mtei", "meeteimayek"],
    "CMSmwHtBtcj"⟩,
  ⟨["mult", "multani"],
    "DZYugbabdbobk"⟩,
  ⟨["mymr", "myanmar"],
    "GBoGdCGAyBeDtBfBPAmt"⟩,
  ⟨["nagm", "nagmundari"],
    "HBPoBp"⟩,
  ⟨["nand", "nandinagari"],
    "ECQyhcBtck"⟩,
  ⟨["narb", "oldnortharabian"],
    "DWYaBf"⟩,
  ⟨["nbat", "nabataean"],
    "DWEiBeii"⟩,
  ⟨["newa"],
    "EANoDnbe"⟩,
  ⟨["nkoo", "nko"],
    "CYiCgcc"⟩,
  ⟨["nshu", "nushu"],
    "FJIfaYVmPf"⟩,
  ⟨["ogam", "ogham"],
    "INoBc"⟩,
  ⟨["olck", "olchiki"],
    "KSuBv"⟩,
  ⟨["onao", "olonal"],
    "HBZkBqea"⟩,
  ⟨["orkh", "oldturkic"],
    "DXMuCu"⟩,
  ⟨["orya", "oriya"],
    "EEjcbhcbcvbgbbbecicbcchcebbecr"⟩,
  ⟨["osge", "osage"],
    "DUSuBjeBj"⟩,
  ⟨["osma", "osmanya"],
    "DUQyBdcj"⟩,
  ⟨["ougr", "olduyghur"],
    "DYUqz"⟩,
  ⟨["palm", "palmyrene"],
    "DWDcBf"⟩,
  ⟨["pauc", "paucinhau"],
    "EDCaCe"⟩,
  ⟨["perm", "oldpermic"],
    "DUFgBq"⟩,
  ⟨["phag", "phagspa"],
    "CLSqCd"⟩,
  ⟨["phli", "inscriptionalpahlavi"],
    "DXGqsfh"⟩,
  ⟨["phlp", "psalterpahlavi"],
    "DXHwrhdmg"⟩,
  ⟨["phnx", "phoenician"],
    "DWJgBbda"⟩,
  ⟨["plrd", "miao"],
    "FIZoCweCehq"⟩,
  ⟨["prti", "inscriptionalparthian"],
    "DXFkvch"⟩,
  ⟨["rjng", "rejang"],
    "CMBwBjla"⟩,
  ⟨["rohg", "hanifirohingya"],
    "DXWqBnij"⟩,
  ⟨["runr", "runic"],
    "IOuCwdk"⟩,
  ⟨["samr", "samaritan"],
    "DAuBtco"⟩,
  ⟨["sarb", "oldsoutharabian"],
    "DWWuBf"⟩,
  ⟨["saur", "saurashtra"],
    "CLVcCril"⟩,
  ⟨["sgnw", "signwriting"],
    "GWTkZbpebo"⟩,
  ⟨["shaw", "shavian"],
    "DUPcBv"⟩,
  ⟨["shrd", "sharada"],
    "DZOyDr"⟩,
  ⟨["sidd", "siddham"],
    "EBCiCbcBl"⟩,
  ⟨["sind", "khudawadi"],
    "EAAqCgfj"⟩,
  ⟨["sinh", "sinhala"],
    "FCzcbrdxbibacgdaefbabhgjccDULgt"⟩,
  ⟨["sogd", "sogdian"],
    "DYSeBp"⟩,
  ⟨["sogo", "oldsogdian"],
    "DYQiBn"⟩,
  ⟨["sora", "sorasompeng"],
    "DZIeyhj"⟩,
  ⟨["soyo", "soyombo"],
    "ECXsDe"⟩,
  ⟨["sund", "sundanese"],
    "KKuClJwh"⟩,
  ⟨["sunu", "sunuwar"],
    "EDLwBhoj"⟩,
  ⟨["sylo", "sylotinagri"],
    "CLQeBs"⟩,
  ⟨["syrc", "syriac"],
    "CQynbChccKmk"⟩,
  ⟨["tagb", "tagbanwa"],
    "IWembcbb"⟩,
  ⟨["takr", "takri"],
    "EBMeCfgj"⟩,
  ⟨["tale", "taile"],
    "JPgBdce"⟩,
  ⟨["talu", "newtailue"],
    "JRcBrezgkdb"⟩,
  ⟨["taml", "tamil"],
    "EJibbfdcbddbbabbdbdcdleedcbdcagaouEALhBxna"⟩,
  ⟨["tang", "tangut"],
    "FJIeaBfJBziBDnTsi"⟩,
  ⟨["tavt", "taiviet"],
    "CMOuCoye"⟩,
  ⟨["telu", "telugu"],
    "EOembcbwbpcibcbdhbbccacdcjhi"⟩,
  ⟨["tfng", "tifinagh"],
    "RCyCdhboa"⟩,
  ⟨["tglg", "tagalog"],
    "ISmvja"⟩,
  ⟨["thaa", "thaana"],
    "CVwBx"⟩,
  ⟨["thai"],
    "FHxCffBb"⟩,
  ⟨["tibt", "tibetan"],
    "FRsCtbBjeBmbBjbobgeb"⟩,
  ⟨["tirh", "tirhuta"],
    "EASmCtij"⟩,
  ⟨["tnsa", "tangsa"],
    "FHGqDabj"⟩,
  ⟨["todr", "todhri"],
    "DVDgBz"⟩,
  ⟨["toto"],
    "HATkBe"⟩,
  ⟨["tutg", "tulutigalari"],
    "EAIqjbacabBlbjbacabdbjbbib"⟩,
  ⟨["ugar", "ugaritic"],
    "DUHcBdba"⟩,
  ⟨["vaii", "vai"],
    "CKMqLn"⟩,
  ⟨["vith", "vithkuqi"],
    "DVAekbobgbbbkbobgbb"⟩,
  ⟨["wara", "warangciti"],
    "ECHcDema"⟩,
  ⟨["wcho", "wancho"],
    "HAVgCffa"⟩,
  ⟨["xpeo", "oldpersian"],
    "DUIiBjen"⟩,
  ⟨["xsux", "cuneiform"],
    "EFBsBJlDyEgbelHn"⟩,
  ⟨["yezi", "yezidi"],
    "DYLkBpbccb"⟩,
  ⟨["yiii", "yi"],
    "CIPkBSudCc"⟩,
  ⟨["zanb", "zanabazarsquare"],
    "ECUqCt"⟩,
  ⟨["zinh", "inherited", "qaai"],
    "BDoEhKrbRkkBaaBCidGOxBeTtcbmbgeagadbHqClUebHmBgFTxdEdbCZUjpqnBLnaIsaGFaaCTCuBtcwUycrhcgB" ++
    "edBTLHiJf"⟩,
  ⟨["zyyy", "common"],
    "aCmBafBaBubobexaBfaRhBmfectEmajagabaYnagaoadaBgaGaaTwaEzbBVtaPpdLeaCGlcCtbHvbbaBVhanahdb" ++
    "fbccaBDtlcDibkdkborBgClBlbccfbBabqBpceZpwkvBJrJwYdcBfbEaTsDpPmubabyphedDnbdaDmbFrpBgBlja" ++
    "BwClBfDcBvaDkGlJToClBHSiBhDycGjjJkaGeaPfaobBEZqbIajwBibsbdFrabBfBafBakkaBtbCmgbgkeJyceBs" ++
    "diDcmBzBsIuBaCSHwdFVgJpgQtGaElCiJlkBmcCjdqibhBdeCiIftmtmDijyFfDgbCsbbcacbcdblbabgbCmbdch" ++
    "bgbBbbdbebadgbNbcLfcBxHThCpCyCiBBeBreDvmocobobBkkGrCezbbnBreihbofFyBLveqdmdEoeDqgleapleC" ++
    "dijgBniBdclebCkNbmncmdjfCdhockgihFqbDxBSUXbaBeDr"⟩]

/-- Names of scripts to which no character belongs. -/
def emptyScripts : List String := ["zzzz", "unknown", "hrkt", "katakanaorhiragana"]

/-- For each script, by its short name, the characters of other scripts that are used with it. -/
def scriptExtensions : List NamedSet := [
  ⟨["adlm"],
    "CIhaBga"⟩,
  ⟨["arab"],
    "CHoaoadaBgakkBaaDPMbbCDkBb"⟩,
  ⟨["beng"],
    "DNtbrbHJeabacbbaiaiacaeaccCBAfa"⟩,
  ⟨["bopo"],
    "SErcejbmkdcagaHnaCZThbKwe"⟩,
  ⟨["bugi"],
    "CMHza"⟩,
  ⟨["buhd"],
    "IUnb"⟩,
  ⟨["cakm"],
    "DTmjCKej"⟩,
  ⟨["copt"],
    "DUAyBb"⟩,
  ⟨["cpmn"],
    "DTImb"⟩,
  ⟨["cprt"],
    "DTImceBsdi"⟩,
  ⟨["cyrl"],
    "BSnbJQnaGEka"⟩,
  ⟨["deva"],
    "DNtbrbHJeBmbbBNaaBZFrj"⟩,
  ⟨["dogr"],
    "DOmlCIDcj"⟩,
  ⟨["dupl"],
    "GMJwd"⟩,
  ⟨["geor"],
    "GLfa"⟩,
  ⟨["glag"],
    "BSmacaPUxaBTNfa"⟩,
  ⟨["gong"],
    "DOmb"⟩,
  ⟨["gonm"],
    "DOmb"⟩,
  ⟨["gran"],
    "DNtbrbYqnGKaabbBecdbBNaaDNTqaETwbba"⟩,
  ⟨["grek"],
    "BGcacaKAsb"⟩,
  ⟨["gujr"],
    "DNtbrbCIDmj"⟩,
  ⟨["guru"],
    "DNtbrbCIDmj"⟩,
  ⟨["hang"],
    "SErcejbmqagaHnaCZThbKwe"⟩,
  ⟨["hani"],
    "SErccabjbmkdcagaedHfaFspBgBjCiBnCeBwplBzaDkykeDsBeBROjhBHAzbKweDCHerLRyb"⟩,
  ⟨["hano"],
    "IUnb"⟩,
  ⟨["hira"],
    "SErcejbmqfbaebDnddaDmbCZTgbKwekaBtb"⟩,
  ⟨["java"],
    "CMHza"⟩,
  ⟨["kali"],
    "CMBua"⟩,
  ⟨["kana"],
    "SErcejbmqfbaebDnddaDmbCZTgbKwekaBtb"⟩,
  ⟨["khoj"],
    "EDijCHOij"⟩,
  ⟨["knda"],
    "DNtbrbHJeabahaxabaCASxf"⟩,
  ⟨["kthi"],
    "DOojCIDcj"⟩,
  ⟨["latn"],
    "BHjmKrbBVebCXkaFTraHkaBYTzhVea"⟩,
  ⟨["limb"],
    "DOna"⟩,
  ⟨["lina"],
    "DTItBs"⟩,
  ⟨["linb"],
    "DTImceBsdi"⟩,
  ⟨["mahj"],
    "DOmlCIDcj"⟩,
  ⟨["mand"],
    "CJoa"⟩,
  ⟨["mani"],
    "CJoa"⟩,
  ⟨["mlym"],
    "DNtbrbHJoaCATxc"⟩,
  ⟨["modi"],
    "CLSaj"⟩,
  ⟨["mong"],
    "JCkbbaDCja"⟩,
  ⟨["mult"],
    "DYkj"⟩,
  ⟨["mymr"],
    "CMBua"⟩,
  ⟨["nand"],
    "DOmbBImjGBhaiahaCASrf"⟩,
  ⟨["nkoo"],
    "CHoaoadaDPPeb"⟩,
  ⟨["orya"],
    "DNtbrbHJoaxa"⟩,
  ⟨["ougr"],
    "CJoaDUSva"⟩,
  ⟨["perm"],
    "BSla"⟩,
  ⟨["phag"],
    "JCkbba"⟩,
  ⟨["phlp"],
    "CJoa"⟩,
  ⟨["rohg"],
    "CHoaoadaBgaFra"⟩,
  ⟨["shrd"],
    "DNtaHKfabacbca"⟩,
  ⟨["sind"],
    "DOmbCIDmj"⟩,
  ⟨["sinh"],
    "DOmb"⟩,
  ⟨["sogd"],
    "CJoa"⟩,
  ⟨["sylo"],
    "DOmbEyj"⟩,
  ⟨["syrc"],
    "CHoaobcaBgakkBaaIXraba"⟩,
  ⟨["tagb"],
    "IUnb"⟩,
  ⟨["takr"],
    "DOmbCIDmj"⟩,
  ⟨["tale"],
    "GEaj"⟩,
  ⟨["taml"],
    "DNtbrbHJoaCBBkaBOEfabaCdb"⟩,
  ⟨["telu"],
    "DNtbrbHJoaxa"⟩,
  ⟨["tglg"],
    "IUnb"⟩,
  ⟨["thaa"],
    "CHoaobcaCmjDPTgaka"⟩,
  ⟨["tirh"],
    "DNtbrbHKmaCASzj"⟩,
  ⟨["yezi"],
    "CHoaoadaCmj"⟩,
  ⟨["yiii"],
    "SErbfjchIpaDAEfe"⟩]

end JavaNaming.Unicode
