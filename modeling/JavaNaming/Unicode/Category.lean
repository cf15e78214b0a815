import JavaNaming.Unicode.Named

/-!
# General categories

Every code point has one general category. Some names stand for several categories together.
-/

namespace JavaNaming.Unicode

/-- The general categories. -/
def categories : List NamedSet := [
  ⟨["cc", "control", "cntrl"],
    "aBfDrBg"⟩,
  ⟨["cf", "format"],
    "GraCAkfwaHkaBxaOubDcaFTjaDAqeBaeBxebjDGHjaJpcGIzapaNKkpBZQudHWxhBTKZmaBeDr"⟩,
  ⟨["cn", "unassigned"],
    "BIebgdhabauaPhaBmbBybdaCdhBbdgkKkaCibDxnChbBxbpaBcbbaleBfaceJdaibcbwahabcebjbcbehbdcafbz" ++
    "bdagdcbwahacacacbbafdcbdcbgeabgrjdajadawahacafbkadadbboebmghadaibcbwahacafbjbcbdgddcafbs" ++
    "jcagcdaeccabaccccdcmdfcdaebbfbnvenadaxaqbjadaegcadbbbebkgwadaxakafbjadaegcfcaebkadlnadaB" ++
    "zadagdqbBaadascyajabbhcbdgabaifkbdlCgdBdBkcabafayabaxbfabahakbeBfCuaBkdBnaBkapanBkHqabeb" ++
    "bOnaebhabaebBpaebBhaebhabaebpaCfaebCpbBgcBafDibgbZtcDlgwiyiulnadaclDqbkfkfBafDlgBreCsjBf" ++
    "amdmdbcBqbfkBsdBaflcCkbCnaBdblfkfobBfBwCzaGkhCicpcCkeBrblhBreUobgbBmbgbiabababaBfbCbapao" ++
    "bgatbdajaDxambBbancBhoBhoFkdZqvluCRsbBgaNleBtabebbCegcnyihahahahahahahahaEwBhBaaDllIgzDc" ++
    "aDibDzeBraDqaDiiBwaBRIrcCdiNktHchHybcabaiuChckfCehCshmfEmkBecDaaldBhaCdiobkbDzxBcjgbgbgi" ++
    "hahaCidEwbkfQNslxdBxdNBabEcBlhlfeBaafabacacaEvpRdbCcgbBfBqfBzataedfaFfbbaHicgbgbgbdchahj" ++
    "fbmaBaatacapboBhEteddBtcDkancbBuBuEzBdcBxoBcdBkiBeeBreBeaBldoBpGcbkfBkdBkdBohCakmapahaca" ++
    "lapahaccCalLziwjixgaBqajCqgbbaBsaccbbxaCuhjBvtaceBhcBbebClCedubByaceiadaBdbddkgjgCmBfBnd" ++
    "miCccBdbBbeBagelhDbCvCcBzmBzgBuhkfBmcBdhcHzBfaBqadbcpdCcBshBqvBaBlBctxiDadBkiCqjbbzgkfCb" ++
    "ashBniDsauksaBvCjhabaeapalfChekfeaibcbwahacafakbcbdbbfbehbhcfkkabbbaBmakabbbaeakachcBcDo" ++
    "afBdCuhkGjCcbBmBhCrkkfnsCgfkfuBbBbbpdxHcCiDvDflibbbiacaBeacbmikCribBublBaCuhDfmCvgkGzBin" ++
    "kfjaBtaojBdcBgbwaoCuhacaBscbacajhkfgacaBlacaggkLxzgraBpcBdDgboBymBJnDxEhafkHoDXjDvmBQsjF" ++
    "XreWlKDcCgCOrVxgBfakdDdakfBebgjCsjkahavetQpCgHpDnDwCxdCfgrClfkcnJCahBVqBokNFqeahacaLfobB" ++
    "cdbbnehPgDKtEdencjgkbiFVfJqfQuCxBubxiEmChJmjBnbHmuCsErululDjizFeDhaCtacbbbcbeamabahaCnae" ++
    "biahaBcaeafabchaNcbLgbBBaofapBQlBffgIeharbhacafeCkBgbEhBtcobkdcMhBfqCgebRvBqIfBrdbSlhaea" ++
    "capaHpbqBoCydkdcBEeCqCxCjHleaBbacabbbakaeababfbdbababadacabbbababababacabbeahaeaeabakare" ++
    "dafarBzcKjBsdDwlpbpapaBljGsCdBdmBsdjgcngFxBLwdrcncEpdDrfmdbomdCehkfBohBebmdcCjNclobnckeC" ++
    "egpblfjgFraDyBNpCLFcBfGDufIobINqnLBloXyDQvUwCFxHHzeGFgBOMXkbBdDsExJgDSFnDSYobDSYob"⟩,
  ⟨["co", "privateuse"],
    "DGVoJMdCAHXoDSYncDSYn"⟩,
  ⟨["ll", "lowercaseletter"],
    "DtzCgaBpxbhbabababababababababababababababababababababababababababbbabababababababbbabab" ++
    "ababababababababababababababababababababacababccabacadbeacadccacababacabbbacadabacbccgac" ++
    "acababababababababbbababababababababbcabadababababababababababababababababababababababab" ++
    "ababababababgcacbbaeababababCqbBaHlabadadcsaBbBibbdcbabababababababababababebacacbBzBvba" ++
    "babababababababababababababababajababababababababababababababababababababababababababaca" ++
    "babababababbbabababababababababababababababababababababababababababababababababababababa" ++
    "babababababababababaBwBoEHbBqccBDgfDFuibaEnBrClmbBhDyabababababababababababababababababa" ++
    "babababababababababababababababababababababababababababababababababababababababababababa" ++
    "bababababababababababababibababababababababababababababababababababababababababababababa" ++
    "babababababababababababababababababiifkhihifkhihinchihihiebbgadcbbidcbihkcbbKoadbdaBbaea" ++
    "eacbideaCbaEBbBvbadbbababaeabbbffabababababababababababababababababababababababababababa" ++
    "babababababababababababababababababababababbhabaeamBlbafaBTWdabababababababababababababa" ++
    "bababababababababatabababababababababababababaFfababababababcbababababababababababababab" ++
    "ababababababababababababababababababhbabacababababaeabacabcbabababababababababafafababab" ++
    "ababababaeabacadabababababaBaadaBFpBqfihDbBEAigmeBOzzBVhBnFgBjFzkbobgbbCRbByEvvEGoBfBGJw" ++
    "BfBMMkzBagbrBazBadbabgbkBazBazBazBazBazBazBazBazBaBbBcybfBaybfBaybfBaybfBaybfbaCSyjbtgfD" ++
    "UdBh"⟩,
  ⟨["lm", "modifierletter"],
    "BAmreloehabaFdafaSkaIwaGibKjbeaBfajadaGeaGlaBVoaExaVtaCPmaEdaXnaRwfGsCknaBiBkBAnanaqmEMx" ++
    "bJhaHjaSbaBrefaDtbDpcBQBuaBWcfKkaEkaBcbEriDcaxaEbcdbSbawaFhaEeavbDzdjaBFViaBtbCZofbBpbiC" ++
    "CxaBgaBJNsdTocBobVemCmbbaYGqdbgbbSGnCjHtgBKfaBRba"⟩,
  ⟨["lo", "otherletter"],
    "GoapaJwaedIaaBFvBaedBtBfbjBjbbDubaybkccaqabBdBdDklayBgvvBqyhkfxbfrBoChCbdasahjqoehcbcvbg" ++
    "badddaqanbbcobkaifebcvbgbbbbbbBfdbatcqibcbvbgbbbedasapbxalhcbcvbgbbbedaBebbcparabfdcbddb" ++
    "babbdbdcdlwaCahbcbwbpdaBaccacbBeaehbcbwbjbedaBfbbbpbribcbBocaqafcicyffrdxbibacgCgBvbbmfC" ++
    "hbbabebxbabjbbjacexdBgaClhbBjBbeElBquaqfeddadbhcemmaEjMqbdcgbabdcBobdcBgbdcgbabdcobCebdc" ++
    "CoBlpEjXvcqbzfCwghhrnsorombcpBzBoaCpBibCahecBhbafCrkBeBxBdcelBrezCcwjCaGuBurhCcBdnbkBrBa" ++
    "BjBpckBdEjdbfbbdaBPqdENvCdywjgbgbgbgbgbgbgbgVfaCbaeDhiabDleafBqbDprBfBwpTsJTnCmBFCebBRyC" ++
    "pBniKhepkbCoaBxCrGnaDzadgbcbdbwBdBzoBxCkfdabblBbkwzBchBuBtecikebBoxcbhupbfdadBxbadbcecab" ++
    "aybdkhaofcfcfjgbgFpBiBdQNrmweBwMNcObcEbCpabjbmbebabbbbbEdBhNysClcCbBolEmebFeEbjbBscBedfc" ++
    "fcfccBjlbzbsbbbocnBiEsOzBcdBwBvBfntbhgBlkBdcBjehEyCzDuBniBzDoBzmLyjvkhFwfcabBrbbdacwkwjB" ++
    "eCnsbbkvkzCsCdgbCmapdbcbBcBqBcdBcBjhbBbBbCbkvksnrEgCuHbBjBmdbaLsBpgbqcChBckaivBqrBuuBbwm" ++
    "CaCfbcanBsBgyBaBjBdacaiBidamBvodvabaBjrbytbClgbabdbobjhBuBmhcbcvbgbbbedasameBejbacabBlba" ++
    "zabaBsCasducBeBvubbaHcBuBpdBkBvuaChBqnaCtBaBlgHdBrIdhcachbbbxpabaDqhcBmqabaBcakBnhavalBt" ++
    "tasCuHrBgBfibBkraBxBdEigbbbBlvazfbbbBfoaMpspabmbBhEuaDbBJlIwHnDXkDspBPfrfzFXqfWkKDdBdCPu" ++
    "VwhBerDarBdsBvBzufsQtBnPpCwfaGtJBziBVpBpjNGhLepaBdccaodiPfDKuEcfmdihjNBcaThBsBhaMjBdsBrS" ++
    "qBaIvBdcaTbgbdbbbobHoBZndbBabbbacabjbdbabagaeabababcbbbacabababababbbacdbgbdbdbabjbqfcbe" ++
    "bqGOaCLFbBgGDtgIncINpoLBkpXxDQwUvCFyHHyfGFf"⟩,
  ⟨["lt", "titlecaseletter"],
    "RlacacaBmaLFhhihihmapaBva"⟩,
  ⟨["lu", "uppercaseletter"],
    "CnzDxwbgBhabababababababababababababababababababababababababababacabababababababacababab" ++
    "ababababababababababababababababababababbbabadbbabbbccdbbbcdbbbbababbbacabbbcbabbdahacac" ++
    "acabababababababacababababababababacacabcbababababababababababababababababababababababab" ++
    "abababababahbbbcabdbabababaLdabadaiagabcbabbbqbiBjaccdabababababababababababafacabbcByBw" ++
    "ababababababababababababababababajababababababababababababababababababababababababababab" ++
    "bbabababababacababababababababababababababababababababababababababababababababababababab" ++
    "ababababababababababacBlEHdBlbafaBBuDhDGlagBqccMiabababababababababababababababababababa" ++
    "babababababababababababababababababababababababababababababababababababababababababababa" ++
    "bababababababababababajababababababababababababababababababababababababababababababababa" ++
    "babababababababababababababababajhifkhihiflabababaihCudmdmdmeldKcaeadccccadegabababdcdkb" ++
    "faCjaDZgBvBwabccabababdbacaicbababababababababababababababababababababababababababababab" ++
    "abababababababababababababababababababaiabaeaBTYjabababababababababababababababababababa" ++
    "bababatabababababababababababababaFfababababababadababababababababababababababababababab" ++
    "abababababababababababakababbbabababaeabacabadababababababababababebebabababababababdbab" ++
    "bdafabababayaBHAhzBUzBnFgBjGakbobgbbCQcByGbvEGoBfBGJwBfBMMqzBazBazBaabbcacbcdbhBazBabbdc" ++
    "hbgBbbbdbebadgBbzBazBazBazBazBazBeyBhyBhyBhyBhyBhaGNlBh"⟩,
  ⟨["mc", "spacingmark"],
    "DKtaCdaccidbbBybCgcgbcbkaBraCgcCoaCgciabbCbbCgabagbcbkaDybbbdcbckaBpcCjdCjbCgabecbbbjbBc" ++
    "aobCgcfcbckaBqbCxcghsbMsbClaGpbeagacbzbkccgvbcfcakcCLsaBeaEzahhbbNidccebbfIqbCgabajabbif" ++
    "FpaBwafabebbCjaBeaebcaCiaccbadbBwhibGpavaHHebBTLbbcaDkbBypFmbBvaBwbebccEgbcbyaBtabaEfacb" ++
    "faJdbbbbbbaBLXjabaExaBtcebElaybChaBwcjbnaDpcdbbaGocBfbCgbbdcbccjakbDgchacabdbbbaDxcibdaE" ++
    "ccgabdcaJdcgdcaEjcibbaEfabbgaEbbeaKbcjaJnfbbeacabaFmcideaDgaBdbCkaPraoaEcahacaIfeebbaNmb" ++
    "maBwbibbaYYycFJgCcEabBKXnbgf"⟩,
  ⟨["me", "enclosingmark"],
    "BSqbIKqaCIgdbcBYOxc"⟩,
  ⟨["mn", "nonspacingmark"],
    "BDoEhKpeKfBsbabbbbbaCukBwuqaDxgcfcbbdBjaBeBaDnkCgijaydbibcbeBrcChiBqxbBfCdabaeheadgkbBda" ++
    "CgaediaubBaacbCfaebebccdaBebdalbCfaeebbeaubwfbaCgacabdiahblbBeaCjamaByadaCdabcfcbdhblbBd" ++
    "aCgacagafbubBcbCfbediaubBdaCuahcbaDmacgmhDuacilgCvbBbababaCdnbebbfkbBjjaDydbfbbcbzbecqdn" ++
    "acbgapaBBbcBKkcBdbBebBebCmbbgiackjaBtcbaEnbBiaEocebjagcIlbcaCgabgbabachgjcaBwnbpBxdBwabe" ++
    "bafaBoimbBgdcbbcCeabbdabcCghcbFwcbmbgeagadbHqClBBsmeadlEOccFlaDsBfVidEdbBSQeaejBgbDcbKma" ++
    "daeazbfaFvbBarnaBmhzkBucBwacdcbBnaCpfcbcbmaiaBvaBzabccbfbbaBqbiaJeacaeaBDZsaBCjpqpBLlaIs" ++
    "aFteCMgcbbfdBoceaGjbWbdCneMfbDbdCskBxdEtaCcoBpacbkcBxdcbhaCjcBkebhCkambCaikdcaDrccabbgac" ++
    "aGbadhvbCfbdaBlgdeCsfnababaobDhhccbaxaDgfbaebbbJedgbbbBbbDhhcabbEcabacfbaDxccdbeJzibbJwb" ++
    "baeaFodcbeaBgjBofcdiajfccBumbbPqgbfbaDevcgbbbbEsfdabbbgbaCubdabaNjblbCaefabaxaHXtagoQYyl" ++
    "dcDSaeChgBOiaCldDdaBDBkbGYzBtcwUycrhcgBedFscCYdCceBxiaoaweboCAigbqcgbbbeDwaGegOlaCjdTodJ" ++
    "ubBCigEfgBTCIvJf"⟩,
  ⟨["nd", "decimalnumber", "digit"],
    "BwjCIojFejHqjPwjEojEojEojEojEojEojEojEojEojDsjEojCsjKsjCsjCTqjBmjLojEyjGkjgjHajDijFejgjC" ++
    "AEojBAcjBmjHqjwjDijPqjBFMcjCCkjDFyjgjBEqjEyjCijFojKsjNejEojOkjDyjgtCyjQgjDyjZmjDijJmjCsj" ++
    "QgjYYgjDMcjDijFejUojBKDyjECqBxDNcjQgjTijJnjBGvjHBaj"⟩,
  ⟨["nl", "letternumber"],
    "IRucDYtBicdFMsaziocBSYljBIFgCaRsaiaFeeMEsEg"⟩,
  ⟨["no", "othernumber"],
    "GwbfaccDMrfOmfEqcFdgIjgriQrjBPltBRvjSmaCMvadfgjHqpBpaBByChDavYgBdCBhaBTcdFijBehboBgjBnoB" ++
    "SMifBHQnBsCndrbNdBaBkdBZghzgBniCxewfGebcpcBtCmiCabBecCxeEahyhBpgMsfNoBeGcjBqdEigFetOptBZ" ++
    "xbQoiBHnsBGtuBCPqgBEswBLYftmtEeyIBuiBJtCgbcbdCyBsboBLam"⟩,
  ⟨["pc", "connectorpunctuation"],
    "DraMBvbtaDGAobycJfa"⟩,
  ⟨["pd", "dashpunctuation"],
    "BtaCAuaBzaFKjaBNpaDBdfFHxacaBfbeaBcaReataEhaCZWabBlakaGnaFLoaMga"⟩,
  ⟨["pe", "closepunctuation"],
    "BpaBzaBfaFPdabaCUoaDRdaCdapaYkabaBeaBPuababababababaDcaBgababababaPoabababababababababab" ++
    "aCmabaBhaBOvabababaBsabababaQmababababadabababacbCZRqaIjaBdabababababababadarababaGoaBza" ++
    "Bfacaca"⟩,
  ⟨["pf", "finalpunctuation"],
    "HfaLWvadaBcaFFsabaeacapada"⟩,
  ⟨["pi", "initialpunctuation"],
    "GpaLXkacbcazaFFsabaeacapada"⟩,
  ⟨["po", "otherpunctuation"],
    "BhcbccababbkbdbBbaCqafaobhaBBaaiaRyfBpaCcacacaBsbubbbnabcCwdDyaBrnIzcCcoBfaKbbkaFkaEqaEr" ++
    "aPaamaOdaDmakbGmobaEiaCweebEhfGpaXoiBDtaEucCtbGbcbcBlfbdMbbIibEygbfGebkgBccEudCheCkbCmhl" ++
    "aBGcbihiicdccdkbabjEUcdbbEiaFnbeccacibbbacbkebjcdbabmccQmcCfaHhaBRYgbKjcDvakaElfOqdDibBo" ++
    "cbaBxbBvaDtmqbEudEwbqbJpaBFCugcawaubcddcbdhcgabbFtcbccababbkbdbBbaBkacbPucZsaBwaPyaBCpaH" ++
    "raBfaKmiBmaEigCogDldBKqeBsdHhgEfbbdEwdBwbDbdeanabcDkfEdaLmbbbEkekbbaEaaJqwEbcBcmCyaFacJs" ++
    "aKecFzaDohDfcbeDpjIhaDreBqbYvbCwmGtaBRseEJcbWDvbFdaCneiaVgcLjdMpaBDBoaLIleEItaBHeb"⟩,
  ⟨["ps", "openpunctuation"],
    "BoaByaBfaFPeabaCUoaDPmadaBmaCdapaYkabaBeaBPuababababababaDcaBgababababaPoabababababababa" ++
    "bababaCmabaBhaBOvabababazasabababaQmababababadabababacaCZRtaIhaBdabababababababadarababa" ++
    "GoaByaBfadaca"⟩,
  ⟨["sc", "currencysymbol"],
    "BkaEvdBWjaEtaTebTebhaJlaKdaWjaDQpaDIiBgBZHvaBGMlaEeaFyaIlbdbMCsdCVXeaDRka"⟩,
  ⟨["sk", "modifiersymbol"],
    "DqabaCtagaeadaUbdmnfgbabqEnaobBXiaIUmabclcncncnbGHobBSVrwjbDzbBLoaobBEKkqBIhabaGgaDOLje"⟩,
  ⟨["sm", "mathsymbol"],
    "BraqcCjabaBtaeaBlaBfaBDmaUhcJYhanaBncncFjaBnegaCqefbeacacahaBfbcabaBfKhBgbDmaBeyBofSbaja" ++
    "CchEhaMyecBekpJwFawCkeBfcJxBwucfDASqaBFsabcGiaqcCjabaFbagdFEfbCYEzazaBfazaBfazaBfazaBfaz" ++
    "aIUeb"⟩,
  ⟨["so", "othersymbol"],
    "GkacaeabaBLpaKgbExbHyakatbJnaTvaOjaFafbaFcaHzaBpaPbcpabccfuababaFdhbfbbfdHpbBCyjBBvaBBua" ++
    "GbBhNpjjiCChbbdbbkabbgfbababaealboabbbaCgbjecdbbbbbgbBecbbabBeKihetcgcDcbBdzBngCtwkDdCzw" ++
    "HabibCbiEgbJnBsBrCmJvTsBvvbgBmcBfbEaIvfNtbBuzbDkmIfBapeanbmavbgbMybejBgBljaqBelBdiapBfkB" ++
    "mpMhJToClBGUiCcBHhdkbbaWbcBFJapExaBtcSqadaebnbMbiCfqccbmdaBvBsCLubWtaESsaDGnheqBCNidfaBE" ++
    "UwaFVnJfqQtGaElCiJlkBmcChfcwbhBdeCivCndaHeDiBTxTrCddByhbnbbCOuaEHwaEzaBBtBreDvmocobobBkx" ++
    "GeCeBcnBreihbofFyJqfBBzeqdmdEoeDqgleapleCdijgBniBdclebCkNbmncmdjfCdhockgihFqbDn"⟩,
  ⟨["zl", "lineseparator"],
    "MEqa"⟩,
  ⟨["zp", "paragraphseparator"],
    "MEra"⟩,
  ⟨["zs", "spaceseparator"],
    "BgaExaIHjaDPnkBkaBvaFXwa"⟩]

/-- Names for several categories together. -/
def categoryGroups : List (List String × List String) := [
  (["lc", "casedletter"], ["ll", "lt", "lu"]),
  (["l", "letter"], ["ll", "lm", "lo", "lt", "lu"]),
  (["m", "mark", "combiningmark"], ["mc", "me", "mn"]),
  (["n", "number"], ["nd", "nl", "no"]),
  (["p", "punctuation", "punct"], ["pc", "pd", "pe", "pf", "pi", "po", "ps"]),
  (["s", "symbol"], ["sc", "sk", "sm", "so"]),
  (["z", "separator"], ["zl", "zp", "zs"]),
  (["c", "other"], ["cc", "cf", "cn", "co"])]

end JavaNaming.Unicode
