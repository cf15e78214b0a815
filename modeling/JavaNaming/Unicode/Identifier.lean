import JavaNaming.Unicode.Ranges

/-!
# Characters of identifiers

Which characters outside ASCII may start an identifier and which may continue one, by the Unicode
properties for identifiers that are closed under normalisation.
-/

namespace JavaNaming.Unicode

/-- The characters outside ASCII that may start an identifier. -/
def identifierStart : Ranges := Ranges.unpack <|
  "GoakaeafwbBebRpeloehabaEzebbdcbagabcbabtbDebFiiGjbBlcagBoCtBaedBtBqBjbbDubapbhbkccaqabBdBd" ++
  "DklayBgjbeafveajadaxyhkfxbfrBpCgCbdasahjppehcbcvbgbadddaqanbbcobkaifebcvbgbbbbbbBfdbatcqib" ++
  "cbvbgbbbedasapbxalhcbcvbgbbbedaBebbcparabfdcbddbbabbdbdcdlwaCahbcbwbpdaBaccacbBeaehbcbwbjb" ++
  "edaBfbbbpbribcbBocaqafcicyffrdxbibacgCgBvbangCgbbabebxbabjbakacebavdBgaClhbBjBbeElBquaqfed" ++
  "dadbhcemmarBlbafacBqbMubdcgbabdcBobdcBgbdcgbabdcobCebdcCoBlpqDhcfdXvcqbzfCwdkhrnsorombcpBz" ++
  "BjaeaCpDkhBobafCrkBeBxBdcelBrezCcwjCaDeaDpBurhCcBdnbkBrBaBjBpckBjckfBqccBpdbfbbdafHjCmKrcf" ++
  "cBlcfchbabababBecCabgbadcbgddcfemfcbgEmanaqmDxaeacjbacfgabababpcdfeearBoDZbIugddbmBlbafacC" ++
  "dhaqwjgbgbgbgbgbgbgbgVecziheceeDhgcbDlbdfBqbDprBfBwpTsJTnCmBGUeCpBtcKidpkbuBuqBecDbBnicDyc" ++
  "CocbbabhvpbcbdbwBdBzoBxCkfdabblBbkwzBchBuBcaqebjkebBoxcbhuwdadBxbadbcecabaycckhcmfcfcfjgbg" ++
  "bBqbngEkBdQNrmweBwMNcObcEbBmgmefabjbmbebabbbbbEdBhFigIjsClcCbBojEpabadababababEvBkzgzlCdcB" ++
  "edfcfcfccBjlbzbsbbbocnBiEsCrCaKhBcdBwBvBfnBdfBlkBdcBjehbeBqGbsBjeBjeBniBzmkbobgbbbkbobgbbd" ++
  "BzmLyjvkhyfbBpbiCrfcabBrbbdacwkwjBeCnsbbkvkzCsCdgbCmapdbcbBcBqBcdBcBjhbBbBbCbkvksnrEgCuCdB" ++
  "ynBynBjBmBbjwJqBpgbqcChBckaivBqrBuuBbwmCaCfbcanBsBgyBaBjBdacaiBidamBvodvabaBjrbytbClgbabdb" ++
  "objhBuBmhcbcvbgbbbedasameBejbacabBlbazabaBsCasducBeBvubbaHcBuBpdBkBvuaChBqnaCtBaBlgHdBrEmC" ++
  "lBfhcachbbbxpabaDqhcBmqabaBcakBnhavalBttasCuHrBgBfibBkraBxBdEigbbbBlvazfbbbBfoaMpspabmbBhE" ++
  "uaDbBJlDyEgrHnDXkDspBPfrfzFXqfWkKDdBdCPuVwhBerDarBdsBvqdBfufsQqBsIdClEyCwfaComCmbbaBcJBziB" ++
  "VpBpjNFrdbgbbbLepaBdccaodiPfDKuEcfmdihjIWkDgbCsbbcacbcdblbabgbCmbdchbgbBbbdbebadgbNbcybybB" ++
  "ebybBebybBebybBebybhCSyBegfKbCjFqBskgqaMjBdsBrSqBbIuBdcaTbgbdbbbobHoChCphaBUidbBabbbacabjb" ++
  "dbabagaeabababcbbbacabababababbbacdbgbdbdbabjbqfcbebqGOaCLFbBgGDtgIncINpoLBkpXxDQwUvCFyHHy" ++
  "fGFf"

/-- The characters outside ASCII that may continue an identifier. -/
def identifierContinue : Ranges := Ranges.unpack <|
  "GoakabacafwbBebRpeloehabarEmbbdcbagebabtbDebFibecGjbBlcagBoiBsbabbbbbaiBaedBdkfCveDxbhcjbs" ++
  "caqCgcDwoCbeacacBtsBbekfxbfiCwbEycjbsbhcbcvbgbaddcicbcdiaebbeclkabaccbfebcvbgbbbbbbcabeebc" ++
  "cdahdbahplcbibcbvbgbbbecjbcbccapdcjjgbcbhcbcvbgbbbecicbcchcebbecjbaqbbfdcbddbbabbdbdcdleed" ++
  "cbdcagaojqmbcbwbpcibcbdhbbccacdcjqdbhbcbwbjbecibcbdhbgbbdcjbcmmbcbBybcbefdhecjkfbcbrdxbiba" ++
  "cgdaefbabhgjcbnCffobjBnbbabebxbabwcebabgbjcdBgaxbgjlababaejbBjetbrbBjjaCfCvgCzcBlbafacBqbM" ++
  "ubdcgbabdcBobdcBgbdcgbabdcobCebdcCoccjiopqDhcfdXvcqbzfCwdkhvjvltmmbcbbmDfdaebcjBhcbkgDkhBq" ++
  "fCrkBeblelkBncelBrezgkBlBbeCkbBcckgjnainbpBxCydjrimElmCdijdBwckfBqccqcbBmfUncfcBlcfchbabab" ++
  "abBecCabgbadcbgddcfemfcbgCobtaBcanaqmBzmeadlraeacjbacfgabababpcdfeearBoDZbIugimBlbafacCdha" ++
  "pxjgbgbgbgbgbgbgbgbBfTxczobeceeDhcbccbDlbdfBqbDprBfBwpTsJTnCmBGUeCpBtcKidBbuBvejbEkBlicDyc" ++
  "CocbbabhvCbeatBzmCrkjgxdabBwcBjmBcdCmokgBebCcjncjgwdCuyccpcekfcfcfjgbgbBqbngEsbbcjgQNrmweB" ++
  "wMNcObcEbBmgmeflbmbebabbbbbEdBhFigIjsClcCbBojgpqpdbycBhabadababababEvtjhzeabzlDkdfcfcfccBj" ++
  "lbzbsbbbocnBiEsCrCaFgaFaBcdBwpaBfBfnBdfBqfBdcBjehbeBqGbcjgBjeBjeBniBzmkbobgbbbkbobgbbdBzmL" ++
  "yjvkhyfbBpbiCrfcabBrbbdacwkwjBeCnsbbkvkzCsCdgbCmdbbfhbcbBccceaBgBcdBcBjhbBdzCbkvksnrEgCuCd" ++
  "BynBynBnijgBldebwJqBpbbdbqcCdBgkaiBgBfvBquBbwjCsBfpjChhanyhjgCabjediBjcajCqedbmbaBjrbBkgdC" ++
  "kgbabdbobjhCgfjgdbhcbcvbgbbbebjcbcccagafgcgdeljbacabBlbjbacabdbhnbBdCwfjedBeCrbaijGkCbcixf" ++
  "BiCmdaljBmCehjgtBcBacoejggHdCgDxCvvhcachbbbBdbbcimjCshcBtchbbBbCkiaiCvdasCuHrBgpjgibBsbipj" ++
  "yBdcvbnCvgbbbBrdabbbiijgfbbbBkbbbfhjLywjqbBodenkDhaDbBJlDyEgrHnDXkDspBPfqvkFXqfWkKDdCfCOsV" ++
  "whBebjgDabjgBdcelCcjdmjjufsQqBsdjHqClEyCweCehqCmbbblboJBziBVpBpjNFrdbgbbbLepaBdccaodiPfDKu" ++
  "EcfmdihjdbGErjTyBtcwUwedfihcgBedFscRbDgbCsbbcacbcdblbabgbCmbdchbgbBbbdbebadgbNbcybybBebybB" ++
  "ebybBebybBebybhcBxTsCceBxiaoaweboBQmBegfIfgbqcgbbbefCjBhaEiBsdncjeaMjBerCfScBpIgBqSrgbdbbb" ++
  "obHolgBpCxejBTudbBabbbacabjbdbabagaeabababcbbbacabababababbbacdbgbdbdbabjbqfcbebqFAajBNqCL" ++
  "FbBgGDtgIncINpoLBkpXxDQwUvCFyHHyfGFfBONHgJf"

/-- Whether a character outside ASCII may start an identifier. -/
def isIdentifierStart (c : Char) : Bool :=
  identifierStart.contains c.toNat

/-- Whether a character outside ASCII may continue an identifier. -/
def isIdentifierContinue (c : Char) : Bool :=
  identifierContinue.contains c.toNat

end JavaNaming.Unicode
