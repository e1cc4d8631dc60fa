/-! Blocks: the named stretches into which code points are divided. -/

namespace RuleGrammar.Unicode

/-- The blocks. -/
def blockTable : String :=
  String.join
    ["ASCII,BASICLATIN 0-7f;LATIN1SUP,LATIN1SUPPLEMENT,LATIN1 80-ff;LATINEXTA,LATINEXTENDEDA ",
      "100-17f;LATINEXTB,LATINEXTENDEDB 180-24f;IPAEXT,IPAEXTENSIONS ",
      "250-2af;MODIFIERLETTERS,SPACINGMODIFIERLETTERS ",
      "2b0-2ff;DIACRITICALS,COMBININGDIACRITICALMARKS 300-36f;GREEK,GREEKANDCOPTIC ",
      "370-3ff;CYRILLIC 400-4ff;CYRILLICSUP,CYRILLICSUPPLEMENT,CYRILLICSUPPLEMENTARY ",
      "500-52f;ARMENIAN 530-58f;HEBREW 590-5ff;ARABIC 600-6ff;SYRIAC ",
      "700-74f;ARABICSUP,ARABICSUPPLEMENT 750-77f;THAANA 780-7bf;NKO 7c0-7ff;SAMARITAN ",
      "800-83f;MANDAIC 840-85f;SYRIACSUP,SYRIACSUPPLEMENT 860-86f;ARABICEXTB,ARABICEXTENDEDB ",
      "870-89f;ARABICEXTA,ARABICEXTENDEDA 8a0-8ff;DEVANAGARI 900-97f;BENGALI 980-9ff;GURMUKHI ",
      "a00-a7f;GUJARATI a80-aff;ORIYA b00-b7f;TAMIL b80-bff;TELUGU c00-c7f;KANNADA ",
      "c80-cff;MALAYALAM d00-d7f;SINHALA d80-dff;THAI e00-e7f;LAO e80-eff;TIBETAN ",
      "f00-fff;MYANMAR 1000-109f;GEORGIAN 10a0-10ff;JAMO,HANGULJAMO 1100-11ff;ETHIOPIC ",
      "1200-137f;ETHIOPICSUP,ETHIOPICSUPPLEMENT 1380-139f;CHEROKEE ",
      "13a0-13ff;UCAS,UNIFIEDCANADIANABORIGINALSYLLABICS,CANADIANSYLLABICS 1400-167f;OGHAM ",
      "1680-169f;RUNIC 16a0-16ff;TAGALOG 1700-171f;HANUNOO 1720-173f;BUHID 1740-175f;TAGBANWA ",
      "1760-177f;KHMER 1780-17ff;MONGOLIAN ",
      "1800-18af;UCASEXT,UNIFIEDCANADIANABORIGINALSYLLABICSEXTENDED 18b0-18ff;LIMBU ",
      "1900-194f;TAILE 1950-197f;NEWTAILUE 1980-19df;KHMERSYMBOLS 19e0-19ff;BUGINESE ",
      "1a00-1a1f;TAITHAM 1a20-1aaf;DIACRITICALSEXT,COMBININGDIACRITICALMARKSEXTENDED ",
      "1ab0-1aff;BALINESE 1b00-1b7f;SUNDANESE 1b80-1bbf;BATAK 1bc0-1bff;LEPCHA 1c00-1c4f;OLCHIKI ",
      "1c50-1c7f;CYRILLICEXTC,CYRILLICEXTENDEDC 1c80-1c8f;GEORGIANEXT,GEORGIANEXTENDED ",
      "1c90-1cbf;SUNDANESESUP,SUNDANESESUPPLEMENT 1cc0-1ccf;VEDICEXT,VEDICEXTENSIONS ",
      "1cd0-1cff;PHONETICEXT,PHONETICEXTENSIONS ",
      "1d00-1d7f;PHONETICEXTSUP,PHONETICEXTENSIONSSUPPLEMENT ",
      "1d80-1dbf;DIACRITICALSSUP,COMBININGDIACRITICALMARKSSUPPLEMENT ",
      "1dc0-1dff;LATINEXTADDITIONAL,LATINEXTENDEDADDITIONAL 1e00-1eff;GREEKEXT,GREEKEXTENDED ",
      "1f00-1fff;PUNCTUATION,GENERALPUNCTUATION 2000-206f;SUPERANDSUB,SUPERSCRIPTSANDSUBSCRIPTS ",
      "2070-209f;CURRENCYSYMBOLS 20a0-20cf;DIACRITICALSFORSYMBOLS,COMBININGDIACRITICALMARKSFORSYM",
      "BOLS,COMBININGMARKSFORSYMBOLS 20d0-20ff;LETTERLIKESYMBOLS 2100-214f;NUMBERFORMS ",
      "2150-218f;ARROWS 2190-21ff;MATHOPERATORS,MATHEMATICALOPERATORS ",
      "2200-22ff;MISCTECHNICAL,MISCELLANEOUSTECHNICAL 2300-23ff;CONTROLPICTURES ",
      "2400-243f;OCR,OPTICALCHARACTERRECOGNITION ",
      "2440-245f;ENCLOSEDALPHANUM,ENCLOSEDALPHANUMERICS 2460-24ff;BOXDRAWING ",
      "2500-257f;BLOCKELEMENTS 2580-259f;GEOMETRICSHAPES ",
      "25a0-25ff;MISCSYMBOLS,MISCELLANEOUSSYMBOLS 2600-26ff;DINGBATS ",
      "2700-27bf;MISCMATHSYMBOLSA,MISCELLANEOUSMATHEMATICALSYMBOLSA ",
      "27c0-27ef;SUPARROWSA,SUPPLEMENTALARROWSA 27f0-27ff;BRAILLE,BRAILLEPATTERNS ",
      "2800-28ff;SUPARROWSB,SUPPLEMENTALARROWSB ",
      "2900-297f;MISCMATHSYMBOLSB,MISCELLANEOUSMATHEMATICALSYMBOLSB ",
      "2980-29ff;SUPMATHOPERATORS,SUPPLEMENTALMATHEMATICALOPERATORS ",
      "2a00-2aff;MISCARROWS,MISCELLANEOUSSYMBOLSANDARROWS 2b00-2bff;GLAGOLITIC ",
      "2c00-2c5f;LATINEXTC,LATINEXTENDEDC 2c60-2c7f;COPTIC ",
      "2c80-2cff;GEORGIANSUP,GEORGIANSUPPLEMENT 2d00-2d2f;TIFINAGH ",
      "2d30-2d7f;ETHIOPICEXT,ETHIOPICEXTENDED 2d80-2ddf;CYRILLICEXTA,CYRILLICEXTENDEDA ",
      "2de0-2dff;SUPPUNCTUATION,SUPPLEMENTALPUNCTUATION ",
      "2e00-2e7f;CJKRADICALSSUP,CJKRADICALSSUPPLEMENT 2e80-2eff;KANGXI,KANGXIRADICALS ",
      "2f00-2fdf;IDC,IDEOGRAPHICDESCRIPTIONCHARACTERS ",
      "2ff0-2fff;CJKSYMBOLS,CJKSYMBOLSANDPUNCTUATION 3000-303f;HIRAGANA 3040-309f;KATAKANA ",
      "30a0-30ff;BOPOMOFO 3100-312f;COMPATJAMO,HANGULCOMPATIBILITYJAMO 3130-318f;KANBUN ",
      "3190-319f;BOPOMOFOEXT,BOPOMOFOEXTENDED 31a0-31bf;CJKSTROKES ",
      "31c0-31ef;KATAKANAEXT,KATAKANAPHONETICEXTENSIONS ",
      "31f0-31ff;ENCLOSEDCJK,ENCLOSEDCJKLETTERSANDMONTHS 3200-32ff;CJKCOMPAT,CJKCOMPATIBILITY ",
      "3300-33ff;CJKEXTA,CJKUNIFIEDIDEOGRAPHSEXTENSIONA 3400-4dbf;YIJING,YIJINGHEXAGRAMSYMBOLS ",
      "4dc0-4dff;CJK,CJKUNIFIEDIDEOGRAPHS 4e00-9fff;YISYLLABLES a000-a48f;YIRADICALS ",
      "a490-a4cf;LISU a4d0-a4ff;VAI a500-a63f;CYRILLICEXTB,CYRILLICEXTENDEDB a640-a69f;BAMUM ",
      "a6a0-a6ff;MODIFIERTONELETTERS a700-a71f;LATINEXTD,LATINEXTENDEDD a720-a7ff;SYLOTINAGRI ",
      "a800-a82f;INDICNUMBERFORMS,COMMONINDICNUMBERFORMS a830-a83f;PHAGSPA a840-a87f;SAURASHTRA ",
      "a880-a8df;DEVANAGARIEXT,DEVANAGARIEXTENDED a8e0-a8ff;KAYAHLI a900-a92f;REJANG ",
      "a930-a95f;JAMOEXTA,HANGULJAMOEXTENDEDA a960-a97f;JAVANESE ",
      "a980-a9df;MYANMAREXTB,MYANMAREXTENDEDB a9e0-a9ff;CHAM ",
      "aa00-aa5f;MYANMAREXTA,MYANMAREXTENDEDA aa60-aa7f;TAIVIET ",
      "aa80-aadf;MEETEIMAYEKEXT,MEETEIMAYEKEXTENSIONS aae0-aaff;ETHIOPICEXTA,ETHIOPICEXTENDEDA ",
      "ab00-ab2f;LATINEXTE,LATINEXTENDEDE ab30-ab6f;CHEROKEESUP,CHEROKEESUPPLEMENT ",
      "ab70-abbf;MEETEIMAYEK abc0-abff;HANGUL,HANGULSYLLABLES ",
      "ac00-d7af;JAMOEXTB,HANGULJAMOEXTENDEDB d7b0-d7ff;HIGHSURROGATES ",
      "d800-db7f;HIGHPUSURROGATES,HIGHPRIVATEUSESURROGATES db80-dbff;LOWSURROGATES ",
      "dc00-dfff;PUA,PRIVATEUSEAREA,PRIVATEUSE ",
      "e000-f8ff;CJKCOMPATIDEOGRAPHS,CJKCOMPATIBILITYIDEOGRAPHS ",
      "f900-faff;ALPHABETICPF,ALPHABETICPRESENTATIONFORMS ",
      "fb00-fb4f;ARABICPFA,ARABICPRESENTATIONFORMSA fb50-fdff;VS,VARIATIONSELECTORS ",
      "fe00-fe0f;VERTICALFORMS fe10-fe1f;HALFMARKS,COMBININGHALFMARKS ",
      "fe20-fe2f;CJKCOMPATFORMS,CJKCOMPATIBILITYFORMS fe30-fe4f;SMALLFORMS,SMALLFORMVARIANTS ",
      "fe50-fe6f;ARABICPFB,ARABICPRESENTATIONFORMSB ",
      "fe70-feff;HALFANDFULLFORMS,HALFWIDTHANDFULLWIDTHFORMS ff00-ffef;SPECIALS ",
      "fff0-ffff;LINEARBSYLLABARY 10000-1007f;LINEARBIDEOGRAMS 10080-100ff;AEGEANNUMBERS ",
      "10100-1013f;ANCIENTGREEKNUMBERS 10140-1018f;ANCIENTSYMBOLS ",
      "10190-101cf;PHAISTOS,PHAISTOSDISC 101d0-101ff;LYCIAN 10280-1029f;CARIAN ",
      "102a0-102df;COPTICEPACTNUMBERS 102e0-102ff;OLDITALIC 10300-1032f;GOTHIC ",
      "10330-1034f;OLDPERMIC 10350-1037f;UGARITIC 10380-1039f;OLDPERSIAN 103a0-103df;DESERET ",
      "10400-1044f;SHAVIAN 10450-1047f;OSMANYA 10480-104af;OSAGE 104b0-104ff;ELBASAN ",
      "10500-1052f;CAUCASIANALBANIAN 10530-1056f;VITHKUQI 10570-105bf;TODHRI 105c0-105ff;LINEARA ",
      "10600-1077f;LATINEXTF,LATINEXTENDEDF 10780-107bf;CYPRIOTSYLLABARY ",
      "10800-1083f;IMPERIALARAMAIC 10840-1085f;PALMYRENE 10860-1087f;NABATAEAN ",
      "10880-108af;HATRAN 108e0-108ff;PHOENICIAN 10900-1091f;LYDIAN 10920-1093f;SIDETIC ",
      "10940-1095f;MEROITICHIEROGLYPHS 10980-1099f;MEROITICCURSIVE 109a0-109ff;KHAROSHTHI ",
      "10a00-10a5f;OLDSOUTHARABIAN 10a60-10a7f;OLDNORTHARABIAN 10a80-10a9f;MANICHAEAN ",
      "10ac0-10aff;AVESTAN 10b00-10b3f;INSCRIPTIONALPARTHIAN 10b40-10b5f;INSCRIPTIONALPAHLAVI ",
      "10b60-10b7f;PSALTERPAHLAVI 10b80-10baf;OLDTURKIC 10c00-10c4f;OLDHUNGARIAN ",
      "10c80-10cff;HANIFIROHINGYA 10d00-10d3f;GARAY 10d40-10d8f;RUMI,RUMINUMERALSYMBOLS ",
      "10e60-10e7f;YEZIDI 10e80-10ebf;ARABICEXTC,ARABICEXTENDEDC 10ec0-10eff;OLDSOGDIAN ",
      "10f00-10f2f;SOGDIAN 10f30-10f6f;OLDUYGHUR 10f70-10faf;CHORASMIAN 10fb0-10fdf;ELYMAIC ",
      "10fe0-10fff;BRAHMI 11000-1107f;KAITHI 11080-110cf;SORASOMPENG 110d0-110ff;CHAKMA ",
      "11100-1114f;MAHAJANI 11150-1117f;SHARADA 11180-111df;SINHALAARCHAICNUMBERS ",
      "111e0-111ff;KHOJKI 11200-1124f;MULTANI 11280-112af;KHUDAWADI 112b0-112ff;GRANTHA ",
      "11300-1137f;TULUTIGALARI 11380-113ff;NEWA 11400-1147f;TIRHUTA 11480-114df;SIDDHAM ",
      "11580-115ff;MODI 11600-1165f;MONGOLIANSUP,MONGOLIANSUPPLEMENT 11660-1167f;TAKRI ",
      "11680-116cf;MYANMAREXTC,MYANMAREXTENDEDC 116d0-116ff;AHOM 11700-1174f;DOGRA ",
      "11800-1184f;WARANGCITI 118a0-118ff;DIVESAKURU 11900-1195f;NANDINAGARI ",
      "119a0-119ff;ZANABAZARSQUARE 11a00-11a4f;SOYOMBO ",
      "11a50-11aaf;UCASEXTA,UNIFIEDCANADIANABORIGINALSYLLABICSEXTENDEDA 11ab0-11abf;PAUCINHAU ",
      "11ac0-11aff;DEVANAGARIEXTA,DEVANAGARIEXTENDEDA 11b00-11b5f;SHARADASUP,SHARADASUPPLEMENT ",
      "11b60-11b7f;SUNUWAR 11bc0-11bff;BHAIKSUKI 11c00-11c6f;MARCHEN 11c70-11cbf;MASARAMGONDI ",
      "11d00-11d5f;GUNJALAGONDI 11d60-11daf;TOLONGSIKI 11db0-11def;MAKASAR 11ee0-11eff;KAWI ",
      "11f00-11f5f;LISUSUP,LISUSUPPLEMENT 11fb0-11fbf;TAMILSUP,TAMILSUPPLEMENT ",
      "11fc0-11fff;CUNEIFORM 12000-123ff;CUNEIFORMNUMBERS,CUNEIFORMNUMBERSANDPUNCTUATION ",
      "12400-1247f;EARLYDYNASTICCUNEIFORM 12480-1254f;CYPROMINOAN ",
      "12f90-12fff;EGYPTIANHIEROGLYPHS 13000-1342f;EGYPTIANHIEROGLYPHFORMATCONTROLS ",
      "13430-1345f;EGYPTIANHIEROGLYPHSEXTA,EGYPTIANHIEROGLYPHSEXTENDEDA ",
      "13460-143ff;ANATOLIANHIEROGLYPHS 14400-1467f;GURUNGKHEMA ",
      "16100-1613f;BAMUMSUP,BAMUMSUPPLEMENT 16800-16a3f;MRO 16a40-16a6f;TANGSA ",
      "16a70-16acf;BASSAVAH 16ad0-16aff;PAHAWHHMONG 16b00-16b8f;KIRATRAI 16d40-16d7f;MEDEFAIDRIN ",
      "16e40-16e9f;BERIAERFE 16ea0-16edf;MIAO ",
      "16f00-16f9f;IDEOGRAPHICSYMBOLS,IDEOGRAPHICSYMBOLSANDPUNCTUATION 16fe0-16fff;TANGUT ",
      "17000-187ff;TANGUTCOMPONENTS 18800-18aff;KHITANSMALLSCRIPT ",
      "18b00-18cff;TANGUTSUP,TANGUTSUPPLEMENT ",
      "18d00-18d7f;TANGUTCOMPONENTSSUP,TANGUTCOMPONENTSSUPPLEMENT ",
      "18d80-18dff;KANAEXTB,KANAEXTENDEDB 1aff0-1afff;KANASUP,KANASUPPLEMENT ",
      "1b000-1b0ff;KANAEXTA,KANAEXTENDEDA 1b100-1b12f;SMALLKANAEXT,SMALLKANAEXTENSION ",
      "1b130-1b16f;NUSHU 1b170-1b2ff;DUPLOYAN 1bc00-1bc9f;SHORTHANDFORMATCONTROLS ",
      "1bca0-1bcaf;SYMBOLSFORLEGACYCOMPUTINGSUP,SYMBOLSFORLEGACYCOMPUTINGSUPPLEMENT ",
      "1cc00-1cebf;MISCSYMBOLSSUP,MISCELLANEOUSSYMBOLSSUPPLEMENT ",
      "1cec0-1ceff;ZNAMENNYMUSIC,ZNAMENNYMUSICALNOTATION ",
      "1cf00-1cfcf;BYZANTINEMUSIC,BYZANTINEMUSICALSYMBOLS 1d000-1d0ff;MUSIC,MUSICALSYMBOLS ",
      "1d100-1d1ff;ANCIENTGREEKMUSIC,ANCIENTGREEKMUSICALNOTATION 1d200-1d24f;KAKTOVIKNUMERALS ",
      "1d2c0-1d2df;MAYANNUMERALS 1d2e0-1d2ff;TAIXUANJING,TAIXUANJINGSYMBOLS ",
      "1d300-1d35f;COUNTINGROD,COUNTINGRODNUMERALS ",
      "1d360-1d37f;MATHALPHANUM,MATHEMATICALALPHANUMERICSYMBOLS 1d400-1d7ff;SUTTONSIGNWRITING ",
      "1d800-1daaf;LATINEXTG,LATINEXTENDEDG 1df00-1dfff;GLAGOLITICSUP,GLAGOLITICSUPPLEMENT ",
      "1e000-1e02f;CYRILLICEXTD,CYRILLICEXTENDEDD 1e030-1e08f;NYIAKENGPUACHUEHMONG ",
      "1e100-1e14f;TOTO 1e290-1e2bf;WANCHO 1e2c0-1e2ff;NAGMUNDARI 1e4d0-1e4ff;OLONAL ",
      "1e5d0-1e5ff;TAIYO 1e6c0-1e6ff;ETHIOPICEXTB,ETHIOPICEXTENDEDB 1e7e0-1e7ff;MENDEKIKAKUI ",
      "1e800-1e8df;ADLAM 1e900-1e95f;INDICSIYAQNUMBERS 1ec70-1ecbf;OTTOMANSIYAQNUMBERS ",
      "1ed00-1ed4f;ARABICMATH,ARABICMATHEMATICALALPHABETICSYMBOLS ",
      "1ee00-1eeff;MAHJONG,MAHJONGTILES 1f000-1f02f;DOMINO,DOMINOTILES 1f030-1f09f;PLAYINGCARDS ",
      "1f0a0-1f0ff;ENCLOSEDALPHANUMSUP,ENCLOSEDALPHANUMERICSUPPLEMENT ",
      "1f100-1f1ff;ENCLOSEDIDEOGRAPHICSUP,ENCLOSEDIDEOGRAPHICSUPPLEMENT ",
      "1f200-1f2ff;MISCPICTOGRAPHS,MISCELLANEOUSSYMBOLSANDPICTOGRAPHS 1f300-1f5ff;EMOTICONS ",
      "1f600-1f64f;ORNAMENTALDINGBATS 1f650-1f67f;TRANSPORTANDMAP,TRANSPORTANDMAPSYMBOLS ",
      "1f680-1f6ff;ALCHEMICAL,ALCHEMICALSYMBOLS ",
      "1f700-1f77f;GEOMETRICSHAPESEXT,GEOMETRICSHAPESEXTENDED ",
      "1f780-1f7ff;SUPARROWSC,SUPPLEMENTALARROWSC ",
      "1f800-1f8ff;SUPSYMBOLSANDPICTOGRAPHS,SUPPLEMENTALSYMBOLSANDPICTOGRAPHS ",
      "1f900-1f9ff;CHESSSYMBOLS ",
      "1fa00-1fa6f;SYMBOLSANDPICTOGRAPHSEXTA,SYMBOLSANDPICTOGRAPHSEXTENDEDA ",
      "1fa70-1faff;SYMBOLSFORLEGACYCOMPUTING 1fb00-1fbff;CJKEXTB,CJKUNIFIEDIDEOGRAPHSEXTENSIONB ",
      "20000-2a6df;CJKEXTC,CJKUNIFIEDIDEOGRAPHSEXTENSIONC ",
      "2a700-2b73f;CJKEXTD,CJKUNIFIEDIDEOGRAPHSEXTENSIOND ",
      "2b740-2b81f;CJKEXTE,CJKUNIFIEDIDEOGRAPHSEXTENSIONE ",
      "2b820-2ceaf;CJKEXTF,CJKUNIFIEDIDEOGRAPHSEXTENSIONF ",
      "2ceb0-2ebef;CJKEXTI,CJKUNIFIEDIDEOGRAPHSEXTENSIONI ",
      "2ebf0-2ee5f;CJKCOMPATIDEOGRAPHSSUP,CJKCOMPATIBILITYIDEOGRAPHSSUPPLEMENT ",
      "2f800-2fa1f;CJKEXTG,CJKUNIFIEDIDEOGRAPHSEXTENSIONG ",
      "30000-3134f;CJKEXTH,CJKUNIFIEDIDEOGRAPHSEXTENSIONH ",
      "31350-323af;CJKEXTJ,CJKUNIFIEDIDEOGRAPHSEXTENSIONJ 323b0-3347f;TAGS ",
      "e0000-e007f;VSSUP,VARIATIONSELECTORSSUPPLEMENT ",
      "e0100-e01ef;SUPPUAA,SUPPLEMENTARYPRIVATEUSEAREAA ",
      "f0000-fffff;SUPPUAB,SUPPLEMENTARYPRIVATEUSEAREAB 100000-10ffff"]

end RuleGrammar.Unicode
