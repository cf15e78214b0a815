import JavaNaming.Unicode.Named

/-!
# Properties with two values

Sets of characters that have a name of their own.
-/

namespace JavaNaming.Unicode

/-- The sets, each with its names. -/
def binaryProperties : List NamedSet := [
  ⟨["ahex", "asciihexdigit"],
    "BwjhfBaf"⟩,
  ⟨["alpha", "alphabetic"],
    "CnzgzBvakaeafwbBebRpeloehabaDiaBqebbcdbagabcbabtbDebFiiGjbBlcagBoBnnbabbbbbaiBaedBdkfCdb" ++
    "goDxbheheckccaqBvnDwyBgjbeafxcstyhkfxbfrBpkldggCxbpbceonsbhcbcvbgbadddhcbcbbaiaebbembkae" ++
    "cbfebcvbgbbbbbbeeebcbeahdbarflcbibcbvbgbbbedibcbbdapdvdecbhcbcvbgbbbedhcbcbjbebbenaqbbfd" ++
    "cbddbbabbdbdcdleedcbcdagaBombcbwbpdhbcbcibbccacdBcdbhbcbwbjbedhbcbcibgbbdncmmbcbBochbcbc" ++
    "bafdhewfbcbrdxbibacgifbabhsbnCffggaBzbbabebxbabsbccebagaodBgaClhbBjesepbBjCpCcbaceqClkdc" ++
    "BlbafacBqbMubdcgbabdcBobdcBgbdcgbabdcobCebdcCoBlpqDhcfdXvcqbzfCwdkhtlumtmmbcbbmBzcsoaeaC" ++
    "pDkhBqfCrkBebleixBdcelBrezCcBbeCkctByaxblcBxBzbobhBzBpcdkBrbkoCcwckBjckfBqccBpdbfbbdafHj" ++
    "BnnlKrcfcBlcfchbabababBecCabgbadcbgddcfemfcbgEmanaqmDxaeacjbadegabababdbkcdfeearBoBFhBzC" ++
    "RuIugddbmBlbafacCdhaqwjgbgbgbgbgbgbgbgbBfBvaSbcziheceeDhgcbDlbdfBqbDprBfBwpTsJTnCmBGUeCp" ++
    "BtcKidpkbuBufhdEiBnicDycCocbbabhvtbBgyBzmCpbaBsfdabckBgfBinBcdByblpaqpkebCcjnswdCqbabayc" ++
    "cpcdlfcfcfjgbgbBqbngEsvQNrmweBwMNcObcEbBmgmeflbmbebabbbbbEdBhNysClcCbBolEmebFeBkzgzlDkdf" ++
    "cfcfccBjlbzbsbbbocnBiEsCrCaKhBcdBwBvBfnBdfBqfBdcBjehbeBqGbsBjeBjeBniBzmkbobgbbbkbobgbbdB" ++
    "zmLyjvkhyfbBpbiCrfcabBrbbdacwkwjBeCnsbbkvkzCsCdgbCmdbbfhbcbBcBqBcdBcBjhbBbBbCbkvksnrEgCu" ++
    "CdBynBynBnBiBbjwJqBpbbdbqcChBckaivBqrBuuBbwjCrBrekCejanyxByrdiBidajClbdjbkabaBjrbBhcagdC" ++
    "kgbabdbobjhCexdbhcbcvbgbbbedhcbcbdagafgBcjbacabBlbjbacabdbbdabaBsCnbcbducBeCncbbaHcCbcgz" ++
    "fBiCkbadaChCbcaCtBacnvgHdCeDzClBfhcachbbbBdbbcbcdDphcBtcfbabbBbBycjrCtfasCuHrBgBfibBsbgb" ++
    "aBxBdcvbnCvgbbbBrdabbbcbacbyfbbbBkbbbdbaMpwjqbBodcEhaDbBJlDyEgrHnDXkDspBPfrfzFXqfWkKDdBu" ++
    "CPdVwhBerDarBdsBvqdBfufsQqBsIdClEyCweCehqCmbbamboJBziBVpBpjNFrdbgbbbLepaBdccaodiPfDKuEcf" ++
    "mdihjeaIWfDgbCsbbcacbcdblbabgbCmbdchbgbBbbdbebadgbNbcybybBebybBebybBebybBebybhCSyBegfIfg" ++
    "bqcgbbbefCjBhaEiBskgqaMjBdsBrSqBbIuBdcaTbgbdbbbobHoChCpdadaBUidbBabbbacabjbdbabagaeababa" ++
    "bcbbbacabababababbbacdbgbdbdbabjbqfcbebqYezgzgzFMkCLFbBgGDtgIncINpoLBkpXxDQwUvCFyHHyfGFf"⟩,
  ⟨["bidic", "bidicontrol"],
    "CIeaJVlbBaeCdd"⟩,
  ⟨["bidim", "bidimirrored"],
    "BobsabaBcabaBdabaBtapaFMsdCUnbDQqbkbCcbobGvaHkddfdadbddbdbabaeifabrfdjbbabhcBecdfajbcsfb" ++
    "jecbexcpidubhbBPtnCwacdbbbcfdfcdnPnvcfbniahfdaeebbceeabccbkfcbmsbdcabacabdfbgcyblbedbbcb" ++
    "eBqchbBnfabadefceadebaJwaTvddbbbobcjBrhQljchDACrffbGgbsabaBcabaBdababbbbDDPnaCfaCfaCfaCf" ++
    "a"⟩,
  ⟨["ci", "caseignorable"],
    "BnagalaBjabaCtaeabaeacbTjHjebeajbbaJrgHzafaBxBsbabbbbbaBsalfkkbaBjakuqaDxhbjbdBhabaBeBaD" ++
    "nkCgkeacayxBrcBsahbfiBpCfCdabaeheadgkbnapaCgaediaubBaacbCfaebebccdaBebdalbCfaeebbeaubwfb" ++
    "aCgacabdiahblbBeaCjamaByadaCdabcfcbdhblbBdaCgacagafbubBcbCfbediaubBdaCuahcbaDmacgliDuaci" ++
    "jabgCvbBbababaCdnbebbfkbBjjaDydbfbbcbzbecqdnacbgapaDqaXkcBKkcBdbBebBebCmbbgiackdafaBteBz" ++
    "aCnbBiaEocebjagcIlbcaCgabgbabachgjcaBnaiBeBxdBwabebafaBoimbBgdcbbcCeabbdabcCghcbCmfDecbm" ++
    "bgeagadbByCknaBiDwRdabclcncncnbmeibkacaceBxebjbanaqmBzBgEJrbEjcEvapaDsBfBvaSbaBkddefaDpf" ++
    "DpcBQBuaBWcfKkaDudbjbaBcdDcboBhDaaxcDzcdbiadaeazbfaFvbBarnaBmhzkBucBwacdcbravbCofcbcbmai" ++
    "aBjalaBzabccbfbbaBbaobfbbaDwejcEracaeaBDZsaFrqWbpdampBiacaGnahagalaBjabaBvaBtbCpavcTtaIs" ++
    "aFteBNpfbBpbiWkcbbfdBoceaGjbWbdBmaBaebaMdbDbdCskBxdEtaCcoBpacbkcBxdcbcaeakaBycBkebhCkamb" ++
    "CaikdcaDrccabbgacaGbadhvbCfbdaBlgdeCsfnababaobDhhccbaxaDgfbaebbbJedgbbbBbbDhhcabbEcabacf" ++
    "baDxccdbeJzibbJwbbaeaFodcbeaBgjBofcdiajfccBumbbPqgbfbaDevcgbbbbEsfdabbbgbaCubdabaNjblbCa" ++
    "efabaxaHXdqgoQYyldcDSaeChgjdTocBobSoaClqCmbbbYGpdbgbbEUgbbdGYuBtcwUycjpcgBedFscCYdCceBxi" ++
    "aoaweboCAigbqcgbbbefCjBhaGenOeaCjdTneJubBCigEfhEBfeBSXXpaBeDrEyJf"⟩,
  ⟨["cased"],
    "CnzgzBvakaeafwbBebHmbdeHzbBjhbBeeDsaBqdcbcdbagabcbabtbDebFiiGjbBljBoEFfBlbafacBqbdZwDhcf" ++
    "DFukfBqccCmHjCmKrcfcBlcfchbabababBecCabgbadcbgddcfemfcbgEmanaqmDxaeacjbadegabababdbfeacd" ++
    "feearBfdbBFlBzCRuIugddbmBlbafaBTWcBtsBdFcDxddbCjcbbabhvebcBFpBqbngDbBEAigmeBNtzgzBTtDbDs" ++
    "BjeBjEmkbobgbbbkbobgbbRjaccbBpbiBUzBynByDpvkvEFiClBGIqClBMLkDgbCsbbcacbcdblbabgbCmbdchbg" ++
    "bBbbdbebadgbNbcybybBebybBebybBebybBebybhCSyjbtgfKbCjDGkCpDAazgzgz"⟩,
  ⟨["cwcf", "changeswhencasefolded"],
    "CnzDmakwbhBgabababababababababababababababababababababababababababacababababababababbbab" ++
    "abababababababababababababababababababababbbabababbbabbbccdbbbcdbbbbababbbacabbbcbabbdah" ++
    "bbbbbbabababababababacababababababababacbbabcbababababababababababababababababababababab" ++
    "abababababababahbbbcabdbabababaJmaBqabadaiagabcbabbbqbiwamcdbbababababababababababababbc" ++
    "bbabbcByBwababababababababababababababababajabababababababababababababababababababababab" ++
    "abababababbbabababababacabababababababababababababababababababababababababababababababab" ++
    "abababababababababababababababacBlBwaEFgBlbafaBFefDFujgBqccMiabababababababababababababa" ++
    "babababababababababababababababababababababababababababababababababababababababababababa" ++
    "bababababababababababababababababafbcabababababababababababababababababababababababababa" ++
    "bababababababababababababababababababababababajhifkhihiflabababaihqBvcccffccfldmefccfLla" ++
    "dbgaBtptaBFmzCSuBvBwabccabababdbacaicbababababababababababababababababababababababababab" ++
    "abababababababababababababababababababababababaiabaeaBTYjabababababababababababababababa" ++
    "bababababababatabababababababababababababaFfababababababadababababababababababababababab" ++
    "abababababababababababababababakababbbabababaeabacabadababababababababababebebababababab" ++
    "ababdbabbdafabababayaBIgDbBEAigmeBNtzBUzBnFgBjGakbobgbbCQcByGbvEGoBfBGJwBfBULkBh"⟩,
  ⟨["cwcm", "changeswhencasemapped"],
    "CnzgzCgakwbBebClbDfbmbncncbbaeDobrgBabbbabbdbbabbbecabbcahacabbdffakbGkaBqdcbdcbagabcbab" ++
    "tbBudBgbebFciGjbBlkBmEFgBlbafacBqccZwDhcfDFukfBqccHdadaqaEjFzcabEncfcBlcfchbabababBecCab" ++
    "gbadcbgddcfemfcbgLladbgaBbarBfdbBFlBzCRuEibbbbhDxhddbmBlbafaBTWcBtsBbFencCjjodccebybBdcb" ++
    "egybBHcaBcDbBEAigmeBNtzgzBTtDbDsBjeBjEmkbobgbbbkbobgbbCOpBynByDpvkvEFiClBGIqClBUKeCp"⟩,
  ⟨["cwl", "changeswhenlowercased"],
    "CnzDxwbgBhabababababababababababababababababababababababababababacabababababababacababab" ++
    "ababababababababababababababababababababbbabadbbabbbccdbbbcdbbbbababbbacabbbcbabbdahbbbb" ++
    "bbabababababababacababababababababacbbabcbababababababababababababababababababababababab" ++
    "abababababahbbbcabdbabababaLdabadaiagabcbabbbqbiBjaiabababababababababababafacabbcByBwab" ++
    "abababababababababababababababajabababababababababababababababababababababababababababbb" ++
    "abababababacabababababababababababababababababababababababababababababababababababababab" ++
    "abababababababababacBlEHdBlbafaBBuDhDGlagBqccMiababababababababababababababababababababa" ++
    "babababababababababababababababababababababababababababababababababababababababababababa" ++
    "babababababababababajabababababababababababababababababababababababababababababababababa" ++
    "bababababababababababababababajhifkhihiflabababaihyhihihieleldmeleLladbgaBtptaBFmzCSuBvB" ++
    "wabccabababdbacaicbababababababababababababababababababababababababababababababababababa" ++
    "babababababababababababababaiabaeaBTYjababababababababababababababababababababababatabab" ++
    "abababababababababababaFfababababababadababababababababababababababababababababababababa" ++
    "babababababakababbbabababaeabacabadababababababababababebebabababababababdbabbdafabababa" ++
    "yaBHAhzBUzBnFgBjGakbobgbbCQcByGbvEGoBfBGJwBfBULkBh"⟩,
  ⟨["cwt", "changeswhentitlecased"],
    "DtzCgaBpxbhbabababababababababababababababababababababababababababacabababababababbbabab" ++
    "ababababababababababababababababababababacababccabacadafacadbdacababacaeacadabacadabaeab" ++
    "bbbbababababababababbbababababababababcbabadabababababababababababababababababababadabab" ++
    "ababababababaiacbbaeababababfbbbabbdbbabbbecabbcahacabbdffakbGkaBrabadadcsaBbBibbdcbabab" ++
    "abababababababababebacacaCaBvbababababababababababababababababajabababababababababababab" ++
    "ababababababababababababababacababababababbbabababababababababababababababababababababab" ++
    "abababababababababababababababababababababababababaBxBmFMefDFuibaJeadaqaEkababababababab" ++
    "abababababababababababababababababababababababababababababababababababababababababababab" ++
    "abababababababababababababababababababababababgfabababababababababababababababababababab" ++
    "abababababababababababababababababababababababababababiifkhihifkhihinchihihiebbgadcbbidc" ++
    "bihkcbbNeaBhpeaBGlzCTqBvbadbbababagacakababababababababababababababababababababababababa" ++
    "bababababababababababababababababababababababababaiabaeamBlbafaBTWdababababababababababa" ++
    "babababababababababababatabababababababababababababaFfababababababadabababababababababab" ++
    "ababababababababababababababababababababakabacababababaeaeabbcabababababababababalababab" ++
    "ababababaeabacadafababaBaaBHcaBcDbBEAigmeBOzzBVhBnFgBjFzkbobgbbCRbByEvvEGoBfBGJwBfBULmBh"⟩,
  ⟨["cwu", "changeswhenuppercased"],
    "DtzCgaBpxbhbabababababababababababababababababababababababababababacabababababababbbabab" ++
    "ababababababababababababababababababababacababccabacadafacadbdacababacaeacadabacadabafbb" ++
    "bbbbabababababababbbababababababababbbbbadabababababababababababababababababababadababab" ++
    "abababababaiacbbaeababababfbbbabbdbbabbbecabbcahacabbdffakbGkaBrabadadcsaBbBibbdcbababab" ++
    "ababababababababebacacaCaBvbababababababababababababababababajababababababababababababab" ++
    "abababababababababababababacababababababbbababababababababababababababababababababababab" ++
    "ababababababababababababababababababababababababaBxBmEHcBqccBDgfDFuibaJeadaqaEkababababa" ++
    "babababababababababababababababababababababababababababababababababababababababababababa" ++
    "babababababababababababababababababababababababababgfabababababababababababababababababa" ++
    "babababababababababababababababababababababababababababababiifkhihifkhihincCabbeabadcbbe" ++
    "addcbihkcbbeaMzaBhpeaBGlzCTqBvbadbbababagacakabababababababababababababababababababababa" ++
    "babababababababababababababababababababababababababababaiabaeamBlbafaBTWdabababababababa" ++
    "bababababababababababababababatabababababababababababababaFfababababababadababababababab" ++
    "abababababababababababababababababababababababakabacababababaeaeabbcabababababababababal" ++
    "abababababababaeabacadafababaBaaBHcaBcDbBEAigmeBOzzBVhBnFgBjFzkbobgbbCRbByEvvEGoBfBGJwBf" ++
    "BULmBh"⟩,
  ⟨["dash"],
    "BtaCAuaBzaFKjaBNpaDBdfCjaBnapaPaaEOiacaBfbeaBcaReataEhaCZWabBlakaGnaFXva"⟩,
  ⟨["di", "defaultignorablecodepoint"],
    "GraZxaBBoaEGwbCKhbDheDApeBaeBxpGKyaCZMppJfaGeaDbiCTLndHWxhBTKZlGBn"⟩,
  ⟨["dep", "deprecated"],
    "MraBYvaDKtabaDCjbDIjfBAvbBZRYka"⟩,
  ⟨["dia", "diacritic"],
    "DqabaCtagaeacbTjGcbhffrbeajbJteIbaCdqbBababbbaFehebFebebdcCpBaDnkCgkBibEwhBpjqBbCjaqaddB" ++
    "caCwaqaEgaqaEgaqaBvcCiaqahaEpaEgaqaEgaqaEfbqaEuaEufbaEdaneCxbBbababaebCocbbCkaEiabbBobee" ++
    "zgbakbBBdcBKmbGxkjaNjcMbhcaBwockEaapaBmiCcbFibCmfDeyeagaccByCkDllBlkRdabclcncncnbEXkcMfa" ++
    "TmfEbdDraBSMkambbaBcbDeboBhDycEfbHuaBbrCfdBkaDramaBkaFtcCndBzaDwejcEybBDZsaBDppKkabaBvaB" ++
    "tbCpaBDkaBTnfbBpbiBFebVzfSbcCskBxdHkaBpaCubEqbCkaCyajcEabGwbDdaqaygdeHxadaEtbJrbEwaEobEl" ++
    "aKjbJybeaGaaDfasaDdaQfaJyabbDdaIPjoURqeChgBQuqDcbYGcdbgbbLThBtcwUycdfihcgBedFMwCjHmgOlaC" ++
    "jdCFwgEfcbc"⟩,
  ⟨["emoji"],
    "BjagafjEhaeaLYramaIiawaDmfpbOdbmaGkazkecHraIxbkajaCgdbejacacbcaeacabbcadadbicfabafllbcab" ++
    "bbasacbsfbabbdbfacbeblbfbcafbbabbubffbdcaeacacfbacababagadagakbpacaeabaecbalbBwcjaoaoaOi" ++
    "bRvctbBzaeaBVuamaXdabaGMRqaHuaGebmboacjCxzbbxauacivbGsBhcEhcbbccDeccbKcbCklfbxhbchmacdca" ++
    "ebnbcaibjafcmciccabaeagadagDhBwCrfhccejdabbdacjItleaKxBubjbHcEimdihBtbgineihi"⟩,
  ⟨["ecomp", "emojicomponent"],
    "BjagafjMBjaIfaDFTraDOIwzTneCEadBSVUqDr"⟩,
  ⟨["emod", "emojimodifier"],
    "HHIxe"⟩,
  ⟨["ebase", "emojimodifierbase"],
    "OLhaIlaqdGSJvaCiccaccEnbckvsdaecbchabayaHtbeavaebGscdeDfaqcjalaWdacaihgajjccCeaCjbbbbarc" ++
    "bmIvcBqi"⟩,
  ⟨["epres", "emojipresentation"],
    "NHqbHxddacaUbbvbBylBratanaibrbfbiafavahbbaeacahaebBcaBjabaecbaCjcyaoaBHbbBzaeaGPLeaHuaHi" ++
    "acjCxzbayauacebcvbGsBgmibCrbvmBqeemqdadCsbabHecCkndbxsaBabnaDiDgBwCrgadcccedlbhiItleaKxB" ++
    "ubjbHcEimdihBtbgineihi"⟩,
  ⟨["extpict", "extendedpictographic"],
    "GnaeaLYramaIiawaDmfpbOdbmaDraCsazkecHraIxbkajaCgdbfblbEjkEnckbabagadagakbpacaeabaecbaleB" ++
    "tcjaoaoaOibRvctbBzaeaBVuamaXdabaGMRmJvncBfaCifmboacjsCeBbokauacibdjQrfMfiKfBwExEmlDhBqmd" ++
    "CehkfBohBeDdmBubjbQyJwBNh"⟩,
  ⟨["ext", "extender"],
    "HbaUqbBHuaQzaBHaaBCyaExaDNfaCeaXnaPiaCqaHKjaBreDzbDpcBQBuaCGsaBLaawaFhaEeavbBFZvaDBkbEMs" ++
    "aXscBVjaBEOfbBTkbbaBQYabDBac"⟩,
  ⟨["grbase", "graphemebase"],
    "BgDqBhmbWvEihcfegbabtbIphGjbBlcBxccBuabacacajBaefrjlabBtvpbDwiagbcaeBfcabBdBdDklaoBqjgdx" ++
    "eajadahobyfabkfBerBpCfCcbabdidbchjcBcbbbhcbcvbgbadddabbgbcbbanbbcexfabfebcvbgbbbbbbecydb" ++
    "ahjccbamabibcbvbgbbbeddiabbdapbelhaibbhcbcvbgbbbedacagbcbpbbcerlabfdcbddbbabbdbdcdlfabbd" ++
    "cbcdavugcbhbcbwbpdaddtccacbejhjbkbcbwbjbedbbbbbcbbbrbbbejbcokbcbBocabbfcbcbbecbjezcbbrdx" ++
    "bibacgjbgghjccmBvbblhimBlbbabebxbabjbbjacebajjcdBgxcBabababnbBjsafaceBxhbfbmBlBseagacbcy" ++
    "cddpembbcfbobBnbafacOmbdcgbabdcBobdcBgbdcgbabdcobCebdcCofBcdzgDhcfcZsdDkhrdajsccjrombcpB" ++
    "zcahhbblidjgjgkfjgDkhecBhbafCrkBeedccebbfhadBpcelBrezgkdCecbdCdbajabbifnjgjgnDiBvhabebjb" ++
    "BcjlcBfebcadCdbaccbadbiBvibfodCjfBqcklanahdbfbccafHjCmKrcfcBlcfchbabababBecCabobncfbsccb" ++
    "ibkfxhBwqbcBabmdBgClFjeZpwkvCRrcBfbNfdbfBsbafacCdhbpwjgbgbgbgbgbgbgbgBhDpBizbDkmIfBaCfgp" ++
    "bDheDwfBqbDpbDhjBvbBRIqdCcjNjuBueakBfcDbcfiHxcbbabhvpbcbdbyceejgCdiCpklymbBliylblBdgBvbb" ++
    "ebcpbkegbybBogbcblcbhbacjcBfbBybadbcecabayqchlfcfcfjgbgbCheEmbbbddjgQNrmweBwMNcObcEbBmgm" ++
    "efabxbebabbbbbEuqRccCbhaBgpqjwBibsbdeebFeeGacBedfcfcfccdgbgnbclbzbsbbbocnBiEsfceBsdDjbmd" ++
    "aBvBsFbBcdBwqBaeBjjBdfBlkBdbBkenBqGbcjgBjeBjeBniBzllbobgbbbkbobgbbdBzmLyjvkhyfbBpbiCrfca" ++
    "bBrbbdacwbCtiiBwsbbfBgdBafaCmCdetcBupdbcbBckihihClBgBkgljCbdBccBafzhdmgDcCuCdBynByhBpmjg" ++
    "BlixibIaBebBpdacbqcChBnivliwredBmBbuwjabCbpgeBdbbcamBwebcbbdoyhjjBjfajriBibclBzjjebbpbtl" ++
    "rbBbdbbacfbbClgbabdbobkgBubcnjibbhcbcvbgbbbedababdcbcccamgBcjbacabBlbdhacabdbbbababcbbBn" ++
    "CdibdabubabcBeBvbbgabbbacacdijGkBubbgdcacBaBkByibbacdljgmtBqbabbgabbgjgtBcBafbeajwHdBuja" ++
    "caDwDemhcachbbbxbebbeabdbcjjCshcBpidbdBbakBngbehjagbdBtnacinCuhjHaBhojgibBloabfkBcdBfzah" ++
    "acaCxgbbbBlvajjgfbbbBkebbabahjLyscdjobBjibbabwDiapBxnBJmDyEgbelHnDXkDunBPfrfzFXqfWkKDdBd" ++
    "mcdjCOsVwhBebjeDcbjgBdhakBvhokjbgbufsQqCfHqDmDxCwfCdlmCmdmboJBziBVpBpjNFrdbgbbbLepaBdcca" ++
    "odiPfDKuEcfmdihjcacaFVkJpgQtGaElCiJlkBmcChbaddvbhBdeCivCndaEstmtmDijyFfDgbCsbbcacbcdblba" ++
    "bgbCmbdchbgbBbbdbebadgbNbcLfcVpCddByhbnbgBRwBegfKbCjFqBskgcjebMiBdsBrejfaRwBbejIgBdckeaS" ++
    "mgbdbbbobHociBwCphaejebBEfCpCyCiHmdbBabbbacabjbdbabagaeabababcbbbacabababababbbacdbgbdbd" ++
    "babjbqfcbebqCabKkBreDvmocobobBkkGrCeBcnBreihbofFyBLveqdmdEoeDqgleapleCdijgBniBdclebCkNbm" ++
    "ncmdjfCdhockgihFqbDxBNqCLFbBgGDtgIncINpoLBkpXxDQwUvCFyHHyfGFf"⟩,
  ⟨["grext", "graphemeextend"],
    "BDoEhKpgKdBsbabbbbbaCukBwuqaDxgcfcbbdBjaBeBaDnkCgijaydbibcbeBrcChiBqxbBfCdabaeheadgkbBda" ++
    "CgabacdiajakbBaacbCfaebebccdaBebdalbCfaeebbeaubwfbaCgabbbdiahckbBeaChabamajaBoadaCdabcfc" ++
    "bdhblbBdaCgacacadafbhblbBcbCfbbacdiajakbBdaCuaeaccbaiaDdacgmhDuacilgCvbBbababaCdnbebbfkb" ++
    "BjjaDydbfbbcbzbecqdnacbgapaBBbcBKkcBdbBebBebCmbbgiackjaBtcbaEnbBiaEocebjagcIlbcaCgabgbab" ++
    "achgjcaBwBeBxdBwgbafaBoimbBgdcbbcCeabbdabcCghcbFwcbmbgeagadbHqClUeaHnBgEOccFlaDsBfVifEbb" ++
    "BSQedbjBgbDcbKmadaeazbfaFvbBarnaBmhzkBucBwacdcbBnaCpfcbcbmaiaBvaBzabccbfbbaBqbiaJeacaeaB" ++
    "DZsaBCjpqpOcbXhaIsaFteCMgcbbfdBoceaGjbWbdCneMfbDbdCskBxdEtaCcoBpacbkcBxdcbhaCjcBkebhCkam" ++
    "bCaikdcaDrccabbgacaGbadhvbCfbbabawaogdeCsfnababaobDhhccbaxaDdacfbacabbbbJbacdgbbbBbbDhhc" ++
    "abbEcabacfbaDxccdbeJzibbJlakbbaeaFodcbeaBgjBofcdiajfccBumbbPqgbfbaDevcgbbbbEsfdabbbgbaCu" ++
    "bdabaNjblbCaefabaxaHXtagoQYyldcDSaeChgBOiaCldDdaBDBkbGYzBtcwUwabceeihcgBedFscCYdCceBxiao" ++
    "aweboCAigbqcgbbbeDwaGegOlaCjdTodJubBCigEfgBTCAfDrEyJf"⟩,
  ⟨["grlink", "graphemelink"],
    "DNpaExaExaExaExaExaExaExaEfbqaEuaEhaExaHtaGybCPlbBeaGbaZdaItaDxbCsbGQtaBUKkaBlaFvaFmaEea" ++
    "LxaJmaBJSraCHiaBpaoaCfaErbFjaEmaGyaDuaJkaExaJsaExaEoaEmaKjaJzbGfaDfasaDdaQfaKabDdaQjb"⟩,
  ⟨["hex", "hexdigit"],
    "BwjhfBafDSLljhfBaf"⟩,
  ⟨["hyphen"],
    "BtaExaBVwaGZzaDBdbFIbaBClaCZUlaGnaDja"⟩,
  ⟨["idsb", "idsbinaryoperator"],
    "SEabch"⟩,
  ⟨["idst", "idstrinaryoperator"],
    "SEcb"⟩,
  ⟨["idsu", "idsunaryoperator"],
    "SEob"⟩,
  ⟨["idcompatmathcontinue"],
    "GwbfaMAgadkboOhaeawaGJJeazaBfazaBfazaBfazaBfaza"⟩,
  ⟨["idcompatmathstart"],
    "MWwaeawaGJJeazaBfazaBfazaBfazaBfaza"⟩,
  ⟨["idc", "idcontinue"],
    "BwjhzeabzBvakabacafwbBebRpeloehabarEmbbcdbagebabtbDebFibecGjbBlcagBoiBsbabbbbbaiBaedBdkf" ++
    "CveDxbhcjbscaqCgcDwoCbeacacBtsBbekfxbfiCwbEycjbsbhcbcvbgbaddcicbcdiaebbeclkabaccbfebcvbg" ++
    "bbbbbbcabeebccdahdbahplcbibcbvbgbbbecjbcbccapdcjjgbcbhcbcvbgbbbecicbcchcebbecjbaqbbfdcbd" ++
    "dbbabbdbdcdleedcbdcagaojqmbcbwbpcibcbdhbbccacdcjqdbhbcbwbjbecibcbdhbgbbdcjbcmmbcbBybcbef" ++
    "dhecjkfbcbrdxbibacgdaefbabhgjcbnCffobjBnbbabebxbabwcebabgbjcdBgaxbgjlababaejbBjetbrbBjja" ++
    "CfCvgCzcBlbafacBqbMubdcgbabdcBobdcBgbdcgbabdcobCebdcCoccjiopqDhcfdXvcqbzfCwdkhvjvltmmbcb" ++
    "bmDfdaebcjBhcbkgDkhBqfCrkBeblelkBncelBrezgkBlBbeCkbBcckgjnainbpBxCydjrimElmCdijdBwckfBqc" ++
    "cqcbBmfUncfcBlcfchbabababBecCabgbadcbgddcfemfcbgCobtaBcanaqmBzmeadlraeacjbacfgabababpcdf" ++
    "eearBoDZbIugimBlbafacCdhapxjgbgbgbgbgbgbgbgbBfTxczobeceeDhcgbDlbdfBqbDprBfBwpTsJTnCmBGUe" ++
    "CpBtcKidBbuBvejbEkBlicDycCocbbabhvCbeatBzmCrkjgxdabBwcBjmBcdCmokgBebCcjncjgwdCuyccpcekfc" ++
    "fcfjgbgbBqbngEsbbcjgQNrmweBwMNcObcEbBmgmeflbmbebabbbbbEdBhNysClcCbBolepqpdbycBgebFetjhze" ++
    "abzlDkdfcfcfccBjlbzbsbbbocnBiEsCrCaFgaFaBcdBwpaBfBfnBdfBqfBdcBjehbeBqGbcjgBjeBjeBniBzmkb" ++
    "obgbbbkbobgbbdBzmLyjvkhyfbBpbiCrfcabBrbbdacwkwjBeCnsbbkvkzCsCdgbCmdbbfhbcbBccceaBgBcdBcB" ++
    "jhbBdzCbkvksnrEgCuCdBynBynBnijgBldebwJqBpbbdbqcCdBgkaiBgBfvBquBbwjCsBfpjChhanyhjgCabjedi" ++
    "BjcajCqedbmbaBjrbBkgdCkgbabdbobjhCgfjgdbhcbcvbgbbbebjcbcccagafgcgdeljbacabBlbjbacabdbhnb" ++
    "BdCwfjedBeCrbaijGkCbcixfBiCmdaljBmCehjgtBcBacoejggHdCgDxCvvhcachbbbBdbbcimjCshcBtchbbBbC" ++
    "kiaiCvdasCuHrBgpjgibBsbipjyBdcvbnCvgbbbBrdabbbiijgfbbbBkbbbfhjLywjqbBodenkDhaDbBJlDyEgrH" ++
    "nDXkDspBPfqvkFXqfWkKDdCfCOsVwhBebjgDabjgBdcelCcjdmjjufsQqBsdjHqClEyCweCehqCmbbblboJBziBV" ++
    "pBpjNFrdbgbbbLepaBdccaodiPfDKuEcfmdihjdbGErjTyBtcwUwedfihcgBedFscRbDgbCsbbcacbcdblbabgbC" ++
    "mbdchbgbBbbdbebadgbNbcybybBebybBebybBebybBebybhcBxTsCceBxiaoaweboBQmBegfIfgbqcgbbbefCjBh" ++
    "aEiBsdncjeaMjBerCfScBpIgBqSrgbdbbbobHolgBpCxejBTudbBabbbacabjbdbabagaeabababcbbbacababab" ++
    "ababbbacdbgbdbdbabjbqfcbebqFAajBNqCLFbBgGDtgIncINpoLBkpXxDQwUvCFyHHyfGFfBONHgJf"⟩,
  ⟨["ids", "idstart"],
    "CnzgzBvakaeafwbBebRpeloehabaEzebbcdbagabcbabtbDebFiiGjbBlcagBoCtBaedBtBqBjbbDubapbhbkcca" ++
    "qabBdBdDklayBgjbeafveajadaxyhkfxbfrBpCgCbdasahjppehcbcvbgbadddaqanbbcobkaifebcvbgbbbbbbB" ++
    "fdbatcqibcbvbgbbbedasapbxalhcbcvbgbbbedaBebbcparabfdcbddbbabbdbdcdlwaCahbcbwbpdaBaccacbB" ++
    "eaehbcbwbjbedaBfbbbpbribcbBocaqafcicyffrdxbibacgCgBvbbmgCgbbabebxbabjbbjacebavdBgaClhbBj" ++
    "BbeElBquaqfeddadbhcemmarBlbafacBqbMubdcgbabdcBobdcBgbdcgbabdcobCebdcCoBlpqDhcfdXvcqbzfCw" ++
    "dkhrnsorombcpBzBjaeaCpDkhBobafCrkBeBxBdcelBrezCcwjCaDeaDpBurhCcBdnbkBrBaBjBpckBjckfBqccB" ++
    "pdbfbbdafHjCmKrcfcBlcfchbabababBecCabgbadcbgddcfemfcbgEmanaqmDxaeacjbacfgabababpcdfeearB" ++
    "oDZbIugddbmBlbafacCdhaqwjgbgbgbgbgbgbgbgVecziheceeDheebDlbdfBqbDprBfBwpTsJTnCmBGUeCpBtcK" ++
    "idpkbuBuqBecDbBnicDycCocbbabhvpbcbdbwBdBzoBxCkfdabblBbkwzBchBuBcaqebjkebBoxcbhuwdadBxbad" ++
    "bcecabaycckhcmfcfcfjgbgbBqbngEkBdQNrmweBwMNcObcEbBmgmefabjbmbebabbbbbEdBhNysClcCbBolEmeb" ++
    "FeBkzgzlDkdfcfcfccBjlbzbsbbbocnBiEsCrCaKhBcdBwBvBfnBdfBlkBdcBjehbeBqGbsBjeBjeBniBzmkbobg" ++
    "bbbkbobgbbdBzmLyjvkhyfbBpbiCrfcabBrbbdacwkwjBeCnsbbkvkzCsCdgbCmapdbcbBcBqBcdBcBjhbBbBbCb" ++
    "kvksnrEgCuCdBynBynBjBmBbjwJqBpgbqcChBckaivBqrBuuBbwmCaCfbcanBsBgyBaBjBdacaiBidamBvodvaba" ++
    "BjrbytbClgbabdbobjhBuBmhcbcvbgbbbedasameBejbacabBlbazabaBsCasducBeBvubbaHcBuBpdBkBvuaChB" ++
    "qnaCtBaBlgHdBrEmClBfhcachbbbxpabaDqhcBmqabaBcakBnhavalBttasCuHrBgBfibBkraBxBdEigbbbBlvaz" ++
    "fbbbBfoaMpspabmbBhEuaDbBJlDyEgrHnDXkDspBPfrfzFXqfWkKDdBdCPuVwhBerDarBdsBvqdBfufsQqBsIdCl" ++
    "EyCwfaComCmbbaBcJBziBVpBpjNFrdbgbbbLepaBdccaodiPfDKuEcfmdihjIWkDgbCsbbcacbcdblbabgbCmbdc" ++
    "hbgbBbbdbebadgbNbcybybBebybBebybBebybBebybhCSyBegfKbCjFqBskgqaMjBdsBrSqBbIuBdcaTbgbdbbbo" ++
    "bHoChCphaBUidbBabbbacabjbdbabagaeabababcbbbacabababababbbacdbgbdbdbabjbqfcbebqGOaCLFbBgG" ++
    "DtgIncINpoLBkpXxDQwUvCFyHHyfGFf"⟩,
  ⟨["ideo", "ideographic"],
    "SEwbziocBLdJTnCmBFBjBHSiObcEbBSIkaBbJBziBVpBqiNUlPfBDEiCLFbBgGDtgIncINpoLBkpXxDQwUvCFyHH" ++
    "yfGFf"⟩,
  ⟨["joinc", "joincontrol"],
    "MDob"⟩,
  ⟨["loe", "logicalorderexception"],
    "FKieEteEDsccaCCXmbcabb"⟩,
  ⟨["lower", "lowercase"],
    "DtzBvakaeaBkxbhbabababababababababababababababababababababababababababbbabababababababbb" ++
    "ababababababababababababababababababababababacababccabacadbeacadccacababacabbbacadabacbc" ++
    "cgacacababababababababbbababababababababbcabadababababababababababababababababababababab" ++
    "ababababababababgcacbbaeababababCqbBjhbBeeDsaBrabadacdsaBbBibbdcbabababababababababababe" ++
    "bacacbBzBvbababababababababababababababababajabababababababababababababababababababababa" ++
    "bababababacababababababbbabababababababababababababababababababababababababababababababa" ++
    "babababababababababababababababaBwBoEHbBqbdBDgfDFuibaEnHjCnababababababababababababababa" ++
    "babababababababababababababababababababababababababababababababababababababababababababa" ++
    "babababababababababababababababibabababababababababababababababababababababababababababa" ++
    "bababababababababababababababababababababiifkhihifkhihinchihihiebbgadcbbidcbihkcbbEranaq" ++
    "mEfadbdaBbaeaeacbideaBhpeaBGlzCTqBvbadbbababaeabbbhdabababababababababababababababababab" ++
    "abababababababababababababababababababababababababababababababbhabaeamBlbafaBTWdabababab" ++
    "ababababababababababababababababababatabababababababababababababcFdababababababcbabababa" ++
    "bababababababababababababababababababababababababababjbabacababababaeabacabcbabababababa" ++
    "babababafafabababababababaeabacadabababababawcbabcBFpBqbngDbBEAigmeBOzzBVhBnFgBjFzkbobgb" ++
    "bRjaccbBpbiBXlByEvvEGoBfBGJwBfBMMkzBagbrBazBadbabgbkBazBazBazBazBazBazBazBazBaBbBcybfBay" ++
    "bfBaybfBaybfBaybfbaCSyjbtgfKbCjDHsBh"⟩,
  ⟨["math"],
    "BraqcBfaBdabaBtaeaBlaBfaBCaccaBabccUhcJWnaBbcladanaodveleCnmeadbeesaeacjbacfgadbcbbcbfdn" ++
    "baCqxbfbbebeBfbagboKhidubDmaBeBabayalgRdbmjefebcbdeoabacflhfbCfabaBddjcMyClJwTrBwucfDASq" ++
    "aBFrfbaGgaqcBdabaBdabaFbagdDCIdDgbCsbbcacbcdblbabgbCmbdchbgbBbbdbebadgbNbcLfcBxIIqdbBabb" ++
    "bacabjbdbabagaeabababcbbbacabababababbbacdbgbdbdbabjbqfcbebqCab"⟩,
  ⟨["mcm", "modifiercombiningmark"],
    "CKibcaFbagadbSnbbcdaBfa"⟩,
  ⟨["nchar", "noncharactercodepoint"],
    "DSDcBfUgbDSYobDSYobDSYobDSYobDSYobDSYobDSYobDSYobDSYobDSYobDSYobDSYobDSYobDSYobDSYobDSYo" ++
    "b"⟩,
  ⟨["oalpha", "otheralphabetic"],
    "BGfaXunbabbbbbaCukBwmbgqaDxgedcbeaBjaBepDykDxbdibcbdGlldggtCcbcobbfckbBdcCggcbcbkakbBdcC" ++
    "geebcbeaBebdalcCghbcbbvbwcecCggcbcbjbkbBeaChedcbckaBoeCfgbcbciblbBdcCggbcbciblbpamdCggbc" ++
    "bckakbBdcCxfbabhsbCjacgsaDvacfbbqaGhsjkbBjEglbacdxdecbccgddnlbakdCLobBebBebBebCosHgbBiaE" ++
    "oleiIoeCfjctCwblcBxeBwoCicBeicbCfkBysQqnCOnBzDKgBfBTQahBibNqaiaxeDkbBypbaCfaBmeBclBtdBwl" ++
    "BlaCpnmaibBtcByabccbfaBsefaJdhBDZvaDEdeCMgcbbfdBEidOxbNbcCbnBtblcBtijaCjcBklsbCfcBwmobDo" ++
    "icagacaGbjxdCggcbcbkakbDgibacabdbbDzmbcEcrJdgcgBdbDeobaEckDznJxmJnfbbcbdabaFmgcfeaBcjBqe" ++
    "bdskBunPrhbgDfvbnEsfdabbbcbadaCoebbbdNkdjbbaBwgdcYYnqFJcabCchdDpbBDAyaNKjgbqcgbbbeDwaDHv" ++
    "aCZwzgzgz"⟩,
  ⟨["odi", "otherdefaultignorablecodepoint"],
    "BGpaFIlbCKhbDHnaGLiaDACpaDbiBWMIhabBdDsExJgFIl"⟩,
  ⟨["ogrext", "othergraphemeextend"],
    "DRyayaNuayaDyayaJaasbDzayaEpapaFBhaBVqaGCvbDAOkbHLeayaNgamaJhaBImaCRTsaieBTLAzDr"⟩,
  ⟨["oidc", "otheridcontinue"],
    "HbaBBraGAjiCLcaCIzbGKraDAEja"⟩,
  ⟨["oids", "otheridstart"],
    "JHlbDGjavaFVwb"⟩,
  ⟨["olower", "otherlowercase"],
    "GoapaThihbBeeDsaCaaFCzaEPzCknaBiBkBAnanaqmIdpBGqzCWobBUGkbIcaEzcdbBHidjaBIWsaccbBpbiDDZh" ++
    "Cj"⟩,
  ⟨["omath", "othermath"],
    "DqaBHxccaBabcbKQyaBbclaBgdybobCnmeadbeesaeacjbadegadbcbbcbfddfeCxecdbbbbbabecbebercbbabg" ++
    "bagbLedGmbbayaraRdbmifefbcbdeoabacfybCfabaBddjbNebBfjPnvCldBgbDCLfabaeaIdabaDCOvDgbCsbbc" ++
    "acbcdblbabgbCmbdchbgbBbbdbebadgbNbcybybBebybBebybBebybBebybhcBxIIqdbBabbbacabjbdbabagaea" ++
    "bababcbbbacabababababbbacdbgbdbdbabjbqfcbebq"⟩,
  ⟨["oupper", "otheruppercase"],
    "MQqpBGgzGSIyzgzgz"⟩,
  ⟨["patsyn", "patternsyntax"],
    "BhokgBadbaBadBigbabbbabbeaeadaxaBfaLUexiocsbjLtBBrGeYfBeBRnTsExOvceypaCZQzbKbb"⟩,
  ⟨["patws", "patternwhitespace"],
    "jesaDwaLYmbyb"⟩,
  ⟨["pcm", "prependedconcatenationmark"],
    "CHcfIhaBxaOubDcaDVXyapa"⟩,
  ⟨["qmark", "quotationmark"],
    "BiaeaFbapaLWuhzbFIdaRpdncDABpdHhaeaDmb"⟩,
  ⟨["radical"],
    "RPwzbDkmIf"⟩,
  ⟨["ri", "regionalindicator"],
    "HGOkz"⟩,
  ⟨["sterm", "sentenceterminal"],
    "BhamaqaCAbaFrcGyaBrcJmaCjabadbLhbCPwbBEkaebBDtaHqbHwafaMcbNqdGsbcbBdbHgbCnbBKubjcFGuanaw" ++
    "bQnaBSHwaKkbItadaOsbDibDraFwbFrcFobJpaBFFiadbGnamaqaCnaEDwbBXdeBsdHhbEndExcEzbgaqbDkbbbE" ++
    "eaQbbOjbfoEbbJpcTxabaJrbDjbQebBAqbCwbBCMbbFdaCnblaBGtaBDOgaLIma"⟩,
  ⟨["sd", "softdotted"],
    "EbbHoaKvaBeaCaauaMiaDuabaJMnaBzanadaFcaGbaQfaIgbEGgaGELhbBybBybBybBybBybBybBybBybBybBybB" ++
    "ybBybDFyaLtbBaa"⟩,
  ⟨["term", "terminalpunctuation"],
    "BhakabalbdaBFyaiaTtaCfaCuaoabcGyaBrkbaJbbCcoBfaKbbBWubGqaefLzbBEjhBDtaEucCtbGbcdaBndcbMc" ++
    "bNqdGsbbcBdbHgeCkbBKubjcFGuanaeakabbdbQmbBSHvbKjcIteOsbDibDraFvcFrcExaqbJpaBFFgcbdGnakab" ++
    "albdaCnacaBPqaBwaBSoaHraLybFwfCqfDldBKqeBsdHhgEidExcEzbgaqbDkeEeaQbcmbNuddoEbbJpcTxabaJr" ++
    "bDjbebPycBtaYvbCwbBYxeBAMzbFdaCnckaBGsbBDOgaLIld"⟩,
  ⟨["uideo", "unifiedideograph"],
    "TSaJTnCmBFBjBICsbbabbkababbccDVEcCLFbBgGDtgIncINpoLBkpXxGRqHHyfGFf"⟩,
  ⟨["upper", "uppercase"],
    "CnzDxwbgBhabababababababababababababababababababababababababababacabababababababacababab" ++
    "ababababababababababababababababababababbbabadbbabbbccdbbbcdbbbbababbbacabbbcbabbdahacac" ++
    "acabababababababacababababababababacacabcbababababababababababababababababababababababab" ++
    "abababababahbbbcabdbabababaLdabadaiagabcbabbbqbiBjaccdabababababababababababafacabbcByBw" ++
    "ababababababababababababababababajababababababababababababababababababababababababababab" ++
    "bbabababababacababababababababababababababababababababababababababababababababababababab" ++
    "ababababababababababacBlEHdBlbafaBBuDhDGlagBqccMiabababababababababababababababababababa" ++
    "babababababababababababababababababababababababababababababababababababababababababababa" ++
    "bababababababababababajababababababababababababababababababababababababababababababababa" ++
    "babababababababababababababababajhifkhihiflabababaihCudmdmdmeldKcaeadccccadegabababdcdkb" ++
    "faBaptaBFmzCSuBvBwabccabababdbacaicbabababababababababababababababababababababababababab" ++
    "ababababababababababababababababababababababaiabaeaBTYjababababababababababababababababa" ++
    "babababababatabababababababababababababaFfababababababadabababababababababababababababab" ++
    "ababababababababababababababakababbbabababaeabacabadababababababababababebebabababababab" ++
    "abdbabbdafabababayaBHAhzBUzBnFgBjGakbobgbbCQcByGbvEGoBfBGJwBfBMMqzBazBazBaabbcacbcdbhBaz" ++
    "BabbdchbgBbbbdbebadgBbzBazBazBazBazBazBeyBhyBhyBhyBhyBhaGNlBhDBizgzgz"⟩,
  ⟨["vs", "variationselector"],
    "JCtcbaDJCapBWNKyJf"⟩,
  ⟨["wspace", "whitespace", "space"],
    "jesaDwaBaaIHjaDPnkBdbfaBvaFXwa"⟩,
  ⟨["xidc", "xidcontinue"],
    "BwjhzeabzBvakabacafwbBebRpeloehabarEmbbdcbagebabtbDebFibecGjbBlcagBoiBsbabbbbbaiBaedBdkf" ++
    "CveDxbhcjbscaqCgcDwoCbeacacBtsBbekfxbfiCwbEycjbsbhcbcvbgbaddcicbcdiaebbeclkabaccbfebcvbg" ++
    "bbbbbbcabeebccdahdbahplcbibcbvbgbbbecjbcbccapdcjjgbcbhcbcvbgbbbecicbcchcebbecjbaqbbfdcbd" ++
    "dbbabbdbdcdleedcbdcagaojqmbcbwbpcibcbdhbbccacdcjqdbhbcbwbjbecibcbdhbgbbdcjbcmmbcbBybcbef" ++
    "dhecjkfbcbrdxbibacgdaefbabhgjcbnCffobjBnbbabebxbabwcebabgbjcdBgaxbgjlababaejbBjetbrbBjja" ++
    "CfCvgCzcBlbafacBqbMubdcgbabdcBobdcBgbdcgbabdcobCebdcCoccjiopqDhcfdXvcqbzfCwdkhvjvltmmbcb" ++
    "bmDfdaebcjBhcbkgDkhBqfCrkBeblelkBncelBrezgkBlBbeCkbBcckgjnainbpBxCydjrimElmCdijdBwckfBqc" ++
    "cqcbBmfUncfcBlcfchbabababBecCabgbadcbgddcfemfcbgCobtaBcanaqmBzmeadlraeacjbacfgabababpcdf" ++
    "eearBoDZbIugimBlbafacCdhapxjgbgbgbgbgbgbgbgbBfTxczobeceeDhcbccbDlbdfBqbDprBfBwpTsJTnCmBG" ++
    "UeCpBtcKidBbuBvejbEkBlicDycCocbbabhvCbeatBzmCrkjgxdabBwcBjmBcdCmokgBebCcjncjgwdCuyccpcek" ++
    "fcfcfjgbgbBqbngEsbbcjgQNrmweBwMNcObcEbBmgmeflbmbebabbbbbEdBhFigIjsClcCbBojgpqpdbycBhabad" ++
    "ababababEvtjhzeabzlDkdfcfcfccBjlbzbsbbbocnBiEsCrCaFgaFaBcdBwpaBfBfnBdfBqfBdcBjehbeBqGbcj" ++
    "gBjeBjeBniBzmkbobgbbbkbobgbbdBzmLyjvkhyfbBpbiCrfcabBrbbdacwkwjBeCnsbbkvkzCsCdgbCmdbbfhbc" ++
    "bBccceaBgBcdBcBjhbBdzCbkvksnrEgCuCdBynBynBnijgBldebwJqBpbbdbqcCdBgkaiBgBfvBquBbwjCsBfpjC" ++
    "hhanyhjgCabjediBjcajCqedbmbaBjrbBkgdCkgbabdbobjhCgfjgdbhcbcvbgbbbebjcbcccagafgcgdeljbaca" ++
    "bBlbjbacabdbhnbBdCwfjedBeCrbaijGkCbcixfBiCmdaljBmCehjgtBcBacoejggHdCgDxCvvhcachbbbBdbbci" ++
    "mjCshcBtchbbBbCkiaiCvdasCuHrBgpjgibBsbipjyBdcvbnCvgbbbBrdabbbiijgfbbbBkbbbfhjLywjqbBoden" ++
    "kDhaDbBJlDyEgrHnDXkDspBPfqvkFXqfWkKDdCfCOsVwhBebjgDabjgBdcelCcjdmjjufsQqBsdjHqClEyCweCeh" ++
    "qCmbbblboJBziBVpBpjNFrdbgbbbLepaBdccaodiPfDKuEcfmdihjdbGErjTyBtcwUwedfihcgBedFscRbDgbCsb" ++
    "bcacbcdblbabgbCmbdchbgbBbbdbebadgbNbcybybBebybBebybBebybBebybhcBxTsCceBxiaoaweboBQmBegfI" ++
    "fgbqcgbbbefCjBhaEiBsdncjeaMjBerCfScBpIgBqSrgbdbbbobHolgBpCxejBTudbBabbbacabjbdbabagaeaba" ++
    "babcbbbacabababababbbacdbgbdbdbabjbqfcbebqFAajBNqCLFbBgGDtgIncINpoLBkpXxDQwUvCFyHHyfGFfB" ++
    "ONHgJf"⟩,
  ⟨["xids", "xidstart"],
    "CnzgzBvakaeafwbBebRpeloehabaEzebbdcbagabcbabtbDebFiiGjbBlcagBoCtBaedBtBqBjbbDubapbhbkcca" ++
    "qabBdBdDklayBgjbeafveajadaxyhkfxbfrBpCgCbdasahjppehcbcvbgbadddaqanbbcobkaifebcvbgbbbbbbB" ++
    "fdbatcqibcbvbgbbbedasapbxalhcbcvbgbbbedaBebbcparabfdcbddbbabbdbdcdlwaCahbcbwbpdaBaccacbB" ++
    "eaehbcbwbjbedaBfbbbpbribcbBocaqafcicyffrdxbibacgCgBvbangCgbbabebxbabjbakacebavdBgaClhbBj" ++
    "BbeElBquaqfeddadbhcemmarBlbafacBqbMubdcgbabdcBobdcBgbdcgbabdcobCebdcCoBlpqDhcfdXvcqbzfCw" ++
    "dkhrnsorombcpBzBjaeaCpDkhBobafCrkBeBxBdcelBrezCcwjCaDeaDpBurhCcBdnbkBrBaBjBpckBjckfBqccB" ++
    "pdbfbbdafHjCmKrcfcBlcfchbabababBecCabgbadcbgddcfemfcbgEmanaqmDxaeacjbacfgabababpcdfeearB" ++
    "oDZbIugddbmBlbafacCdhaqwjgbgbgbgbgbgbgbgVecziheceeDhgcbDlbdfBqbDprBfBwpTsJTnCmBGUeCpBtcK" ++
    "idpkbuBuqBecDbBnicDycCocbbabhvpbcbdbwBdBzoBxCkfdabblBbkwzBchBuBcaqebjkebBoxcbhuwdadBxbad" ++
    "bcecabaycckhcmfcfcfjgbgbBqbngEkBdQNrmweBwMNcObcEbBmgmefabjbmbebabbbbbEdBhFigIjsClcCbBojE" ++
    "pabadababababEvBkzgzlCdcBedfcfcfccBjlbzbsbbbocnBiEsCrCaKhBcdBwBvBfnBdfBlkBdcBjehbeBqGbsB" ++
    "jeBjeBniBzmkbobgbbbkbobgbbdBzmLyjvkhyfbBpbiCrfcabBrbbdacwkwjBeCnsbbkvkzCsCdgbCmapdbcbBcB" ++
    "qBcdBcBjhbBbBbCbkvksnrEgCuCdBynBynBjBmBbjwJqBpgbqcChBckaivBqrBuuBbwmCaCfbcanBsBgyBaBjBda" ++
    "caiBidamBvodvabaBjrbytbClgbabdbobjhBuBmhcbcvbgbbbedasameBejbacabBlbazabaBsCasducBeBvubba" ++
    "HcBuBpdBkBvuaChBqnaCtBaBlgHdBrEmClBfhcachbbbxpabaDqhcBmqabaBcakBnhavalBttasCuHrBgBfibBkr" ++
    "aBxBdEigbbbBlvazfbbbBfoaMpspabmbBhEuaDbBJlDyEgrHnDXkDspBPfrfzFXqfWkKDdBdCPuVwhBerDarBdsB" ++
    "vqdBfufsQqBsIdClEyCwfaComCmbbaBcJBziBVpBpjNFrdbgbbbLepaBdccaodiPfDKuEcfmdihjIWkDgbCsbbca" ++
    "cbcdblbabgbCmbdchbgbBbbdbebadgbNbcybybBebybBebybBebybBebybhCSyBegfKbCjFqBskgqaMjBdsBrSqB" ++
    "bIuBdcaTbgbdbbbobHoChCphaBUidbBabbbacabjbdbabagaeabababcbbbacabababababbbacdbgbdbdbabjbq" ++
    "fcbebqGOaCLFbBgGDtgIncINpoLBkpXxDQwUvCFyHHyfGFf"⟩]

end JavaNaming.Unicode
