import JavaNaming.Unicode.Named

/-!
# Classes for dividing a text

The classes by which a text is divided into characters, words and sentences.
-/

namespace JavaNaming.Unicode

/-- The classes of the rule that divides a text into characters as users see them. -/
def graphemeBreaks : List NamedSet := [
  ⟨["cn", "control"],
    "ajbbbrDrBgnaCBmaGUraDAqacbygBxpDGHjaJglTUapBZQudHWxhBTKZlBfDsExJgFIl"⟩,
  ⟨["cr"],
    "na"⟩,
  ⟨["ex", "extend"],
    "BDoEhKpgKdBsbabbbbbaCukBwuqaDxgcfcbbdBjaBeBaDnkCgijaydbibcbeBrcCihBqxbBfCdabaeheadgkbBda" ++
    "CgabacdiajakbBaacbCfaebebccdaBebdalbCfaeebbeaubwfbaCgabbbdiahckbBeaChabamajaBoadaCdabcfc" ++
    "bdhblbBdaCgacacadafbhblbBcbCfbbacdiajakbBdaCuaeaccbaiaDdacgmhDuacilgCvbBbababaCdnbebbfkb" ++
    "BjjaDydbfbbcbzbecqdnacbgapaBBbcBKkcBdbBebBebCmbbgiackjaBtcbaEnbBiaEocebjagcIlbcaCgabgbab" ++
    "achgjcaBwBeBxdBwgbafaBoimbBgdcbbcCeabbdabcCghcbFwcbmbgeagadbHqClUeaHnBgEOccFlaDsBfVifEbb" ++
    "BSQedbjBgbDcbKmadaeazbfaFvbBarnaBmhzkBucBwacdcbBnaCpfcbcbmaiaBvaBzabccbfbbaBqbiaJeacaeaB" ++
    "DZsaBCjpqpOcbXhaIsaFteCMgcbbfdBoceaGjbWbdOxbDccCskBxdEtaCcoBpacbkcBxdcbhaCjcBkebhCkambCa" ++
    "ikdcaDrccabbgacaGbadhvbCfbbabawaogdeHnhccbaxaDdacfbacabbbbJbacdgbbbBbbDhhcabbEcabacfbaDx" ++
    "ccdbeJzibbJlakbbaeaFodcbeaBgjBofcdiajfccBumbbPqgbfbaDevcgbbbbEsfdabbbgbaCubdabaNjblbCaef" ++
    "abaHYragoURqeChgBOiaCldDdaBDBkbGYzBtcwUwabceeihcgBedFscCYdCceBxiaoaweboCAigbqcgbbbeDwaGe" ++
    "gOlaCjdTodBMegEfgEBgeBSXYuDrEyJf"⟩,
  ⟨["l"],
    "GLkDrCFOqBc"⟩,
  ⟨["lf"],
    "ka"⟩,
  ⟨["lv"],
    "CNDoaBbaBbaBbaBbaBbaBbaBbaBbaBbaBbaBbaBbaBbaBbaBbaBbaBbaBbaBbaBbaBbaBbaBbaBbaBbaBbaBbaBb" ++
    "aBbaBbaBbaBbaBbaBbaBbaBbaBbaBbaBbaBbaBbaBbaBbaBbaBbaBbaBbaBbaBbaBbaBbaBbaBbaBbaBbaBbaBba" ++
    "BbaBbaBbaBbaBbaBbaBbaBbaBbaBbaBbaBbaBbaBbaBbaBbaBbaBbaBbaBbaBbaBbaBbaBbaBbaBbaBbaBbaBbaB" ++
    "baBbaBbaBbaBbaBbaBbaBbaBbaBbaBbaBbaBbaBbaBbaBbaBbaBbaBbaBbaBbaBbaBbaBbaBbaBbaBbaBbaBbaBb" ++
    "aBbaBbaBbaBbaBbaBbaBbaBbaBbaBbaBbaBbaBbaBbaBbaBbaBbaBbaBbaBbaBbaBbaBbaBbaBbaBbaBbaBbaBba" ++
    "BbaBbaBbaBbaBbaBbaBbaBbaBbaBbaBbaBbaBbaBbaBbaBbaBbaBbaBbaBbaBbaBbaBbaBbaBbaBbaBbaBbaBbaB" ++
    "baBbaBbaBbaBbaBbaBbaBbaBbaBbaBbaBbaBbaBbaBbaBbaBbaBbaBbaBbaBbaBbaBbaBbaBbaBbaBbaBbaBbaBb" ++
    "aBbaBbaBbaBbaBbaBbaBbaBbaBbaBbaBbaBbaBbaBbaBbaBbaBbaBbaBbaBbaBbaBbaBbaBbaBbaBbaBbaBbaBba" ++
    "BbaBbaBbaBbaBbaBbaBbaBbaBbaBbaBbaBbaBbaBbaBbaBbaBbaBbaBbaBbaBbaBbaBbaBbaBbaBbaBbaBbaBbaB" ++
    "baBbaBbaBbaBbaBbaBbaBbaBbaBbaBbaBbaBbaBbaBbaBbaBbaBbaBbaBbaBbaBbaBbaBbaBbaBbaBbaBbaBbaBb" ++
    "aBbaBbaBbaBbaBbaBbaBbaBbaBbaBbaBbaBbaBbaBbaBbaBbaBbaBbaBbaBbaBbaBbaBbaBbaBbaBbaBbaBbaBba" ++
    "BbaBbaBbaBbaBbaBbaBbaBbaBbaBbaBbaBbaBbaBbaBbaBbaBbaBbaBbaBbaBbaBbaBbaBbaBbaBbaBbaBbaBbaB" ++
    "baBbaBbaBbaBbaBbaBbaBbaBbaBbaBbaBbaBbaBbaBbaBbaBbaBbaBbaBbaBbaBbaBbaBbaBbaBbaBbaBbaBbaBb" ++
    "aBbaBbaBbaBbaBbaBbaBbaBbaBbaBbaBbaBbaBbaBbaBbaBbaBbaBba"⟩,
  ⟨["lvt"],
    "CNDpBabBabBabBabBabBabBabBabBabBabBabBabBabBabBabBabBabBabBabBabBabBabBabBabBabBabBabBab" ++
    "BabBabBabBabBabBabBabBabBabBabBabBabBabBabBabBabBabBabBabBabBabBabBabBabBabBabBabBabBabB" ++
    "abBabBabBabBabBabBabBabBabBabBabBabBabBabBabBabBabBabBabBabBabBabBabBabBabBabBabBabBabBa" ++
    "bBabBabBabBabBabBabBabBabBabBabBabBabBabBabBabBabBabBabBabBabBabBabBabBabBabBabBabBabBab" ++
    "BabBabBabBabBabBabBabBabBabBabBabBabBabBabBabBabBabBabBabBabBabBabBabBabBabBabBabBabBabB" ++
    "abBabBabBabBabBabBabBabBabBabBabBabBabBabBabBabBabBabBabBabBabBabBabBabBabBabBabBabBabBa" ++
    "bBabBabBabBabBabBabBabBabBabBabBabBabBabBabBabBabBabBabBabBabBabBabBabBabBabBabBabBabBab" ++
    "BabBabBabBabBabBabBabBabBabBabBabBabBabBabBabBabBabBabBabBabBabBabBabBabBabBabBabBabBabB" ++
    "abBabBabBabBabBabBabBabBabBabBabBabBabBabBabBabBabBabBabBabBabBabBabBabBabBabBabBabBabBa" ++
    "bBabBabBabBabBabBabBabBabBabBabBabBabBabBabBabBabBabBabBabBabBabBabBabBabBabBabBabBabBab" ++
    "BabBabBabBabBabBabBabBabBabBabBabBabBabBabBabBabBabBabBabBabBabBabBabBabBabBabBabBabBabB" ++
    "abBabBabBabBabBabBabBabBabBabBabBabBabBabBabBabBabBabBabBabBabBabBabBabBabBabBabBabBabBa" ++
    "bBabBabBabBabBabBabBabBabBabBabBabBabBabBabBabBabBabBabBabBabBabBabBabBabBabBabBabBabBab" ++
    "BabBabBabBabBabBabBabBabBabBabBabBabBabBabBabBabBabBabBa"⟩,
  ⟨["pp", "prepend"],
    "CHcfIhaBxaOubDcaBRnaDUGkapaJkbCVrabaJoaCvfBAyaRba"⟩,
  ⟨["ri", "regionalindicator"],
    "HGOkz"⟩,
  ⟨["sm", "spacingmark"],
    "DKtaCdaccidbbBybChbgbcbCcaCgcCoaCgciabbCbbCiagbcbEkabbdcbcCacCjdCjbCgabbbbcbbbBnaobChbfc" ++
    "bcCbbCybggtbClaExaFibClaGvajbzbBsaCMqaBeaEzahhbbNidccebbfIqbCgabavfFpaCcabebbCjaBeaebcaC" ++
    "iaccbadbBwhibGpavaCAShbcaDkbBypFmbBvaBwbebccEgbcbyaGbacbfaJdbbbbbbaBLXjabaExaBtcebElaybC" ++
    "haBwcjbnaDpcdbbaGocBfbChabdcbccubIbcibdaEdbgabbbacaJebgdcaEjcibbaEfabbgaEhaKbcjaJoebbeac" ++
    "abaFmcideaDgaBdbCkaPraoaEcahacaIfeebbaNmbmaBwbibbaBEIhCcEabBKXoaga"⟩,
  ⟨["t"],
    "GRwDjCWXnBw"⟩,
  ⟨["v"],
    "GPcCtCWZww"⟩,
  ⟨["zwj"],
    "MDpa"⟩]

/-- The classes of the rule that divides a text into words. -/
def wordBreaks : List NamedSet := [
  ⟨["cr"],
    "na"⟩,
  ⟨["dq", "doublequote"],
    "Bia"⟩,
  ⟨["ex", "extendnumlet"],
    "DraMBfapbtaDGAobycJfa"⟩,
  ⟨["extend"],
    "BDoEhKpgKdBsbabbbbbaCukBwuqaDxgcfcbbdBjaBeBaDnkCgijaydbibcbeBrcCihBqxbBgCccbrbgkbBdcCeab" ++
    "gcbccjakbBaaccCeabeebccdaBebdalcCeabhbcbcubwfbcCeabgcbcchckbBeaChedcbdjaBoeCdabgbcbdhblb" ++
    "BdcCeabgbcbdhblbpamdCdbbgbcbdjakbBdcCsaefbabhsbCjacgmhDuacilgCvbBbababaebBxtbbfkbBjjaDwt" ++
    "xdecbccgddnlbakdBBbcBKkdBccBdbBebCmBfjaBtcbaEnbBiaEolelIleCfjbBccaBwBeBxeBvqBmimcBemCenB" ++
    "wtFwcbueagaccHqClUeaHnBgEOccFlaDsBfVifEbbBSQedbjBgbDcbKmadaeaxeeaDfbByrBarnaBmhzmBsdBvnB" ++
    "kaCpnmaibBtcByabccbfbbaBpefbJchbbBDZsaBCjpqpOcbXhaIsaFteCMgcbbfdBoceaGjbWbdOxbDccCskBxdE" ++
    "scCboBpacbkdBtkhaCjcBknqbBsamcBwnidbbDolgacaGblvdCdbbgcbccjakbcgdeHkrxaDdtJbgciBbbDeqEcm" ++
    "DxoJwoJlfbbcdbabbFlgcgdaBcjBogbdiajkBupPphbhDevbnEsfdabbbgbaCoebbbeNjdjbbaBwgdeHYragoURq" ++
    "eChgBOiabCchdDdalbBDAxbGYzBtcwUwedfihcgBedFscCYdCceBxiaoaweboCAigbqcgbbbeDwaGegOlaCjdTod" ++
    "BMegEfgEBgeBSXYuDrEyJf"⟩,
  ⟨["fo", "format"],
    "GraCAkfwaHkaBxaOubDcaFTjaDAtbBaeBxebjDGHjaJpcGIzapaNKkpBZQudHWxhBTKZma"⟩,
  ⟨["hl", "hebrewletter"],
    "CFgBaedDOVyabjbmbebabbbbbj"⟩,
  ⟨["ka", "katakana"],
    "SGneDxbdDmbdJgpIaBubDjCZHeCdCOUcdbgbbbaLbcByaod"⟩,
  ⟨["le", "aletter"],
    "CnzgzBvakaeafwbBebSlgBhEiebbcdbagabcbabtbDebFiiGjbBlcdbabBobaEaaBsBqBjbbDubapbhbkccaqabB" ++
    "dBdDklayBgjbeafveajadaxyhkfxbfrBpCgCbdasahjppehcbcvbgbadddaqanbbcobkaifebcvbgbbbbbbBfdba" ++
    "tcqibcbvbgbbbedasapbxalhcbcvbgbbbedaBebbcparabfdcbddbbabbdbdcdlwaCahbcbwbpdaBaccacbBeaeh" ++
    "bcbwbjbedaBfbbbpbribcbBocaqafcicyffrdxbibacgMbaClhbBjBbeKpBlbafacBqbMubdcgbabdcBobdcBgbd" ++
    "cgbabdcobCebdcCoBlpqDhcfdXvcqbzfCwdkhrnsorombcGtDkhecBhbafCrkBeIrwJeBurhCcBdnbkBrBaBjBpc" ++
    "kBjcihBqccBpdbfbbdafHjCmKrcfcBlcfchbabababBecCabgbadcbgddcfemfcbgEmanaqmDxaeacjbadegabab" ++
    "abdbkcdfeearBoBFhBzCRuIugddbmBlbafacCdhaqwjgbgbgbgbgbgbgbgDcaSbaCbbHsBqbDprBfBPToBSuCpBt" ++
    "cKidpkbuBuqBecDbyHmfbbabeypbcbdbwBdBzoBxCkfdabblBbkwzBchBuBcaBwBoxcbhFskhcmfcfcfjgbgbCfg" ++
    "EkBdQNrmweBwNGugmeCeDtBhNysClcCbBolEmebFeBkzgzCrBedfcfcfccBjlbzbsbbbocnBiEsCrCaKhBcdBwBv" ++
    "BfnBdfBlkBdcBjehbeBqGbsBjeBjeBniBzmkbobgbbbkbobgbbCpLyjvkhyfbBpbiCrfcabBrbbdacwkwjBeCnsb" ++
    "bkvkzCsCdgbCmapdbcbBcBqBcdBcBjhbBbBbCbkvksnrEgCuCdBynBynBjNkBpgbDaBckaivBqrBuuBbwmCaCfbc" ++
    "anBsBgyBaBjBdacaiBidamBvodvabaBjrbytbClgbabdbobjhBuBmhcbcvbgbbbedasameGcCasducBeBvubbaHc" ++
    "BuBpdBkBvuaChBqnaMpBrEmClBfhcachbbbxpabaDqhcBmqabaBcakBnhavalBttasCuKdibBkraBxBdEigbbbBl" ++
    "vazfbbbBfoaMpspabmbBhEuaDbBJlDyEgrHnDXkDspBPfrfFYvWkMUbVwhBerDarBdsBvqdBfufsBAmClEyCwfaC" ++
    "omCmbbaBCVkEcfmdihjIWkDgbCsbbcacbcdblbabgbCmbdchbgbBbbdbebadgbNbcybybBebybBebybBebybBeby" ++
    "bhCSyBegfKbCjFqBskgqaMjBdsBrSqBbBDcgbdbbbobHoChCphaBUidbBabbbacabjbdbabagaeabababcbbbaca" ++
    "bababababbbacdbgbdbdbabjbqfcbebqYezgzgz"⟩,
  ⟨["lf"],
    "ka"⟩,
  ⟨["mb", "midnumlet"],
    "BuaMCfbkaDGDpaGyaga"⟩,
  ⟨["ml", "midletter"],
    "CgaEuaBBraSdaFsaJXyaDGBbaCnaHoa"⟩,
  ⟨["mn", "midnum"],
    "BsaoaBGcaUcaFabDqaPfaJFfaDFZvadaChadaHbaoa"⟩,
  ⟨["nl", "newline"],
    "lbEqaLZmb"⟩,
  ⟨["nu", "numeric"],
    "BwjCIojbaFcjHqjPwjEojEojEojEojEojEojEojEojEojDsjEojCsjKsjCsjCTqjBmjLojEyjGkjgjHajDijFejg" ++
    "jCAEojBAcjBmjHqjwjDijPqjBFMcjCCkjDFyjBFgjEyjCijFojKsjNejEojOkjDyjDyjQgjDyjBDejJmjCsjQgjB" ++
    "CKsjDijFejBPBwBxDNcjQgjTijBQsjHBaj"⟩,
  ⟨["ri", "regionalindicator"],
    "HGOkz"⟩,
  ⟨["sq", "singlequote"],
    "Bna"⟩,
  ⟨["wsegspace"],
    "BgaIMhaDPngbcDgaFXwa"⟩,
  ⟨["zwj"],
    "MDpa"⟩]

/-- The classes of the rule that divides a text into sentences. -/
def sentenceBreaks : List NamedSet := [
  ⟨["at", "aterm"],
    "BuaMCraDGDpaHfa"⟩,
  ⟨["cl", "close"],
    "BiaecBxabaBdabaBtapaFMsdCUnbDPjhzbkbCcbobYjdBdbBPgfhnDbbBfjPnvCldBgbBNmnobcjyashQljchbcC" ++
    "ZRqbIhbBcpcbqfGnbBxabaBdababbbbDPOsc"⟩,
  ⟨["cr"],
    "na"⟩,
  ⟨["ex", "extend"],
    "BDoEhKpgKdBsbabbbbbaCukBwuqaDxgcfcbbdBjaBeBaDnkCgijaydbibcbeBrcCihBqxbBgCccbrbgkbBdcCeab" ++
    "gcbccjakbBaaccCeabeebccdaBebdalcCeabhbcbcubwfbcCeabgcbcchckbBeaChedcbdjaBoeCdabgbcbdhblb" ++
    "BdcCeabgbcbdhblbpamdCdbbgbcbdjakbBdcCsaefbabhsbCjacgmhDuacilgCvbBbababaebBxtbbfkbBjjaDwt" ++
    "xdecbccgddnlbakdBBbcBKkdBccBdbBebCmBfjaBtcbaEnbBiaEolelIleCfjbBccaBwBeBxeBvqBmimcBemCenB" ++
    "wtFwcbueagaccHqClUebHmBgEOccFlaDsBfVifEbbBSQedbjBgbDcbKmadaeaxeeaDfbByrBarnaBmhzmBsdBvnB" ++
    "kaCpnmaibBtcByabccbfbbaBpefbJchbbBDZsaBCjpqpOcbXhaIsaFteCMgcbbfdBoceaGjbWbdOxbDccCskBxdE" ++
    "scCboBpacbkdBtkhaCjcBknqbBsamcBwnidbbDolgacaGblvdCdbbgcbccjakbcgdeHkrxaDdtJbgciBbbDeqEcm" ++
    "DxoJwoJlfbbcdbabbFlgcgdaBcjBogbdiajkBupPphbhDevbnEsfdabbbgbaCoebbbeNjdjbbaBwgdeHYragoURq" ++
    "eChgBOiabCchdDdalbBDAxbGYzBtcwUwedfihcgBedFscCYdCceBxiaoaweboCAigbqcgbbbeDwaGegOlaCjdTod" ++
    "BMegEfgBTCAfDrEyJf"⟩,
  ⟨["fo", "format"],
    "GraCAkfwaHkaBxaOubDcaFTjaDAqacbBaeBxebjDGHjaJpcGIzapaNKkpBZQudHWxhBTKZma"⟩,
  ⟨["le", "oletter"],
    "RbaedIaaBkgglBaabaFdaSqaEoBaeeBsBqBjbbDubapbhbkccaqabBdBdDklayBgjbeafveajadaxyhkfxbfrBpC" ++
    "gCbdasahjppehcbcvbgbadddaqanbbcobkaifebcvbgbbbbbbBfdbatcqibcbvbgbbbedasapbxalhcbcvbgbbbe" ++
    "daBebbcparabfdcbddbbabbdbdcdlwaCahbcbwbpdaBaccacbBeaehbcbwbjbedaBfbbbpbribcbBocaqafcicyf" ++
    "frdxbibacgCgBvbbmgCgbbabebxbabjbbjacebavdBgaClhbBjBbeElBquaqfeddadbhcemmaCnBqcMtbdcgbabd" ++
    "cBobdcBgbdcgbabdcobCebdcCoBlpEjXvcqbzfCwdkhrnsorombcpBzBjaeaCpDkhecBhbafCrkBeBxBdcelBrez" ++
    "CcwjCaDeaDpBurhCcBdnbkBrBaBjBpckBjsBqccBpdbfbbdaBPqdCtccdEKtCdhaqwjgbgbgbgbgbgbgbgDcaSbc" ++
    "ziheceeDhgcbDlbdfBqbDprBfBwpTsJTnCmBGUeCpBtcKidpkbCoaqaBgDbBniEaagaDzadgbcbdbwBdBzoBxCkf" ++
    "dabblBbkwzBchBuBcaqebjkebBoxcbhuwdadBxbadbcecabaycckhcmfcfcfjgbgFpBiBdQNrmweBwMNcObcEbCp" ++
    "abjbmbebabbbbbEdBhNysClcCbBolEmebFeEbCdcBedfcfcfccBjlbzbsbbbocnBiEsCrCaKhBcdBwBvBfnBdfBl" ++
    "kBdcBjehbeEsCzDuBniBzGaLyjvkhzbEvfcabBrbbdacwkwjBeCnsbbkvkzCsCdgbCmapdbcbBcBqBcdBcBjhbBb" ++
    "BbCbkvksnrEgCuHbBjNkBpgbDaBckaivBqrBuuBbwmCaCfbcanBsBgyBaBjBdacaiBidamBvodvabaBjrbytbClg" ++
    "babdbobjhBuBmhcbcvbgbbbedasameGcCasducBeBvubbaHcBuBpdBkBvuaChBqnaCtBaBlgHdBrIdhcachbbbxp" ++
    "abaDqhcBmqabaBcakBnhavalBttasCuKdibBkraBxBdEigbbbBlvazfbbbBfoaMpspabmbBhEuaDbBJlDyEgrHnD" ++
    "XkDspBPfrfFYvWkMUbVwhBerDarBdsBvqdBfufsBHwCwfaComCmbbaBcJBziBVpBqiNFrdbgbbbLepaBdccaodiP" ++
    "fDKuEcfmdihjNBcaThBskgqaMjBdsBrSqBbBDcgbdbbbobHoFeaBUidbBabbbacabjbdbabagaeabababcbbbaca" ++
    "bababababbbacdbgbdbdbabjbqfcbebqGOaCLFbBgGDtgIncINpoLBkEPjUvCFyHHyfGFf"⟩,
  ⟨["lf"],
    "ka"⟩,
  ⟨["lo", "lower"],
    "DtzBvakaeaBkxbhbabababababababababababababababababababababababababababbbabababababababbb" ++
    "ababababababababababababababababababababababacababccabacadbeacadccacababacabbbacadabacbc" ++
    "cgacacababababababababbbababababababababbcabadababababababababababababababababababababab" ++
    "ababababababababgcacbbaeababababCqbBjhbBeeFkabadacdsaBbBibbdcbabababababababababababebac" ++
    "acbBzBvbababababababababababababababababajababababababababababababababababababababababab" ++
    "abababacababababababbbababababababababababababababababababababababababababababababababab" ++
    "ababababababababababababababaBwBoEItaBDjfDFuiEpHjCnababababababababababababababababababa" ++
    "babababababababababababababababababababababababababababababababababababababababababababa" ++
    "babababababababababababibabababababababababababababababababababababababababababababababa" ++
    "bababababababababababababababababiifkhihifkhihinchihihiebbgadcbbidcbihkcbbEranaqmEfadbda" ++
    "BbaeaeacbideaBhpeaBGlzCTqBvbadbbababaeabbbhdabababababababababababababababababababababab" ++
    "abababababababababababababababababababababababababababbhabaeamBlbafaBTWdabababababababab" ++
    "ababababababababababababababatabababababababababababababcFdababababababcbabababababababa" ++
    "bababababababababababababababababababababababjbabacababababaeabacabcbabababababababababa" ++
    "fafabababababababaeabagababababaycbabcBFpBqbngDbBEAigmeBOzzBVhBnFgBjFzkbobgbbRjaccbBpbiB" ++
    "XlByEMfBfBGJwBfBMMkzBagbrBazBadbabgbkBazBazBazBazBazBazBazBazBaBbBcybfBaybfBaybfBaybfBay" ++
    "bfbaCSyjbtgfKbCjDHsBh"⟩,
  ⟨["nu", "numeric"],
    "BwjCIojbbFbjHqjPwjEojEojEojEojEojEojEojEojEojDsjEojCsjKsjCsjCTqjBmjLojEyjGkjgjHajDijFejg" ++
    "jCAEojBAcjBmjHqjwjDijPqjBFMcjCCkjDFyjBFgjEyjCijFojKsjNejEojOkjDyjDyjQgjDyjBDejJmjCsjQgjB" ++
    "CKsjDijFejBPBwBxDNcjQgjTijBQsjHBaj"⟩,
  ⟨["sc", "scontinue"],
    "BsbmaBYoaGsbSwaGBxafaDBebGAuaDAAwbbaBdbBdbdacakaGmbmaCva"⟩,
  ⟨["se", "sep"],
    "FdaLZmb"⟩,
  ⟨["sp"],
    "jabbtaExaIHjaDPnkBkaBvaFXwa"⟩,
  ⟨["st", "sterm"],
    "BhaBdaCAbaFrcGyaBrcJmaCjabadbLhbCPwbBEkaebBDtaHqbHwafaMcbNqdGsbcbBdbHgbCnbBKubjcFGuanawb" ++
    "QnaBSHwaKkbItadaOsbDibDraFwbFrcFobJpaBFFmbGnaBdaCnaEDwbBXdeBsdHhbEndExcEzbgaqbDkbbbEeaQb" ++
    "bOjbfoEbbJpcTxabaJrbDjbQebBAqbCwbBCMbbFdaCnblaBGtaBDOgaLIma"⟩,
  ⟨["up", "upper"],
    "CnzDxwbgBhabababababababababababababababababababababababababababacabababababababacababab" ++
    "ababababababababababababababababababababbbabadbbabbbccdbbbcdbbbbababbbacabbbcbabbdahbbbb" ++
    "bbabababababababacababababababababacbbabcbababababababababababababababababababababababab" ++
    "abababababahbbbcabdbabababaLdabadaiagabcbabbbqbiBjaccdabababababababababababafacabbcByBw" ++
    "ababababababababababababababababajababababababababababababababababababababababababababab" ++
    "bbabababababacababababababababababababababababababababababababababababababababababababab" ++
    "ababababababababababacBlEHdBlbafaBBuDhDUwabababababababababababababababababababababababa" ++
    "babababababababababababababababababababababababababababababababababababababababababababa" ++
    "bababababababajababababababababababababababababababababababababababababababababababababa" ++
    "babababababababababababajhifkhihiflabababaihyhihihieleldmeleKbaeadccccadegabababdcdkbfaB" ++
    "aptaBFmzCSuBvBwabccabababdbacaicbabababababababababababababababababababababababababababa" ++
    "bababababababababababababababababababababaiabaeaBTYjabababababababababababababababababab" ++
    "ababababatabababababababababababababaFfababababababadabababababababababababababababababa" ++
    "bababababababababababababakababbbabababaeabacabadababababababababababebebabababababababd" ++
    "bagafabaBcaBHAhzBUzBnFgBjGakbobgbbCQcByENlBfBGJwBfBMMqzBazBazBaabbcacbcdbhBazBabbdchbgBb" ++
    "bbdbebadgBbzBazBazBazBazBazBeyBhyBhyBhyBhyBhaGNlBhDBizgzgz"⟩]

end JavaNaming.Unicode
