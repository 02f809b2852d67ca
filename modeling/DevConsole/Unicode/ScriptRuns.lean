/-!
# The runs of the scripts

The property Script over all code points, as runs of equal value in ascending order. Each run is the
abbreviation of the script and the number of code points. `scriptNames` gives each abbreviation with
the long name after it. The property Script_Extensions differs from it only where a character is
used with several scripts, or with other ones: `scriptExtensions` gives the first code point, how
many there are, and the abbreviations of their scripts.
-/

namespace DevConsole.Unicode

def scriptNames : String :=
  String.join
    ["Adlm Adlam Aghb Caucasian_Albanian Ahom Ahom Arab Arabic Armi Imperial_Aramaic Armn ",
     "Armenian Avst Avestan Bali Balinese Bamu Bamum Bass Bassa_Vah Batk Batak Beng Bengali ",
     "Berf Beria_Erfe Bhks Bhaiksuki Bopo Bopomofo Brah Brahmi Brai Braille Bugi Buginese Buhd ",
     "Buhid Cakm Chakma Cans Canadian_Aboriginal Cari Carian Cham Cham Cher Cherokee Chrs ",
     "Chorasmian Copt Coptic Cpmn Cypro_Minoan Cprt Cypriot Cyrl Cyrillic Deva Devanagari Diak ",
     "Dives_Akuru Dogr Dogra Dsrt Deseret Dupl Duployan Egyp Egyptian_Hieroglyphs Elba Elbasan ",
     "Elym Elymaic Ethi Ethiopic Gara Garay Geor Georgian Glag Glagolitic Gong Gunjala_Gondi ",
     "Gonm Masaram_Gondi Goth Gothic Gran Grantha Grek Greek Gujr Gujarati Gukh Gurung_Khema ",
     "Guru Gurmukhi Hang Hangul Hani Han Hano Hanunoo Hatr Hatran Hebr Hebrew Hira Hiragana ",
     "Hluw Anatolian_Hieroglyphs Hmng Pahawh_Hmong Hmnp Nyiakeng_Puachue_Hmong Hung ",
     "Old_Hungarian Ital Old_Italic Java Javanese Kali Kayah_Li Kana Katakana Kawi Kawi Khar ",
     "Kharoshthi Khmr Khmer Khoj Khojki Kits Khitan_Small_Script Knda Kannada Krai Kirat_Rai ",
     "Kthi Kaithi Lana Tai_Tham Laoo Lao Latn Latin Lepc Lepcha Limb Limbu Lina Linear_A Linb ",
     "Linear_B Lisu Lisu Lyci Lycian Lydi Lydian Mahj Mahajani Maka Makasar Mand Mandaic Mani ",
     "Manichaean Marc Marchen Medf Medefaidrin Mend Mende_Kikakui Merc Meroitic_Cursive Mero ",
     "Meroitic_Hieroglyphs Mlym Malayalam Modi Modi Mong Mongolian Mroo Mro Mtei Meetei_Mayek ",
     "Mult Multani Mymr Myanmar Nagm Nag_Mundari Nand Nandinagari Narb Old_North_Arabian Nbat ",
     "Nabataean Newa Newa Nkoo Nko Nshu Nushu Ogam Ogham Olck Ol_Chiki Onao Ol_Onal Orkh ",
     "Old_Turkic Orya Oriya Osge Osage Osma Osmanya Ougr Old_Uyghur Palm Palmyrene Pauc ",
     "Pau_Cin_Hau Perm Old_Permic Phag Phags_Pa Phli Inscriptional_Pahlavi Phlp Psalter_Pahlavi ",
     "Phnx Phoenician Plrd Miao Prti Inscriptional_Parthian Rjng Rejang Rohg Hanifi_Rohingya ",
     "Runr Runic Samr Samaritan Sarb Old_South_Arabian Saur Saurashtra Sgnw SignWriting Shaw ",
     "Shavian Shrd Sharada Sidd Siddham Sidt Sidetic Sind Khudawadi Sinh Sinhala Sogd Sogdian ",
     "Sogo Old_Sogdian Sora Sora_Sompeng Soyo Soyombo Sund Sundanese Sunu Sunuwar Sylo ",
     "Syloti_Nagri Syrc Syriac Tagb Tagbanwa Takr Takri Tale Tai_Le Talu New_Tai_Lue Taml Tamil ",
     "Tang Tangut Tavt Tai_Viet Tayo Tai_Yo Telu Telugu Tfng Tifinagh Tglg Tagalog Thaa Thaana ",
     "Thai Thai Tibt Tibetan Tirh Tirhuta Tnsa Tangsa Todr Todhri Tols Tolong_Siki Toto Toto ",
     "Tutg Tulu_Tigalari Ugar Ugaritic Vaii Vai Vith Vithkuqi Wara Warang_Citi Wcho Wancho Xpeo ",
     "Old_Persian Xsux Cuneiform Yezi Yezidi Yiii Yi Zanb Zanabazar_Square Zinh Inherited Zyyy ",
     "Common"]

def scriptRuns : String :=
  String.join
    ["Zyyy65Latn26Zyyy6Latn26Zyyy47Latn1Zyyy15Latn1Zyyy5Latn23Zyyy1Latn31Zyyy1Latn449Zyyy39Latn5",
     "Zyyy5Bopo2Zyyy20Zinh112Grek4Zyyy1Grek3Zzzz2Grek4Zyyy1Grek1Zzzz4Grek1Zyyy1Grek1Zyyy1Grek3",
     "Zzzz1Grek1Zzzz1Grek20Zzzz1Grek63Copt14Grek16Cyrl133Zinh2Cyrl169Zzzz1Armn38Zzzz2Armn50Zzzz2",
     "Armn3Zzzz1Hebr55Zzzz8Hebr27Zzzz4Hebr6Zzzz11Arab5Zyyy1Arab6Zyyy1Arab14Zyyy1Arab3Zyyy1Arab32",
     "Zyyy1Arab10Zinh11Arab26Zinh1Arab108Zyyy1Arab34Syrc14Zzzz1Syrc60Zzzz2Syrc3Arab48Thaa50",
     "Zzzz14Nkoo59Zzzz2Nkoo3Samr46Zzzz2Samr15Zzzz1Mand28Zzzz2Mand1Zzzz1Syrc11Zzzz5Arab34Zzzz5",
     "Arab75Zyyy1Arab29Deva81Zinh4Deva15Zyyy2Deva26Beng4Zzzz1Beng8Zzzz2Beng2Zzzz2Beng22Zzzz1",
     "Beng7Zzzz1Beng1Zzzz3Beng4Zzzz2Beng9Zzzz2Beng2Zzzz2Beng4Zzzz8Beng1Zzzz4Beng2Zzzz1Beng5Zzzz2",
     "Beng25Zzzz2Guru3Zzzz1Guru6Zzzz4Guru2Zzzz2Guru22Zzzz1Guru7Zzzz1Guru2Zzzz1Guru2Zzzz1Guru2",
     "Zzzz2Guru1Zzzz1Guru5Zzzz4Guru2Zzzz2Guru3Zzzz3Guru1Zzzz7Guru4Zzzz1Guru1Zzzz7Guru17Zzzz10",
     "Gujr3Zzzz1Gujr9Zzzz1Gujr3Zzzz1Gujr22Zzzz1Gujr7Zzzz1Gujr2Zzzz1Gujr5Zzzz2Gujr10Zzzz1Gujr3",
     "Zzzz1Gujr3Zzzz2Gujr1Zzzz15Gujr4Zzzz2Gujr12Zzzz7Gujr7Zzzz1Orya3Zzzz1Orya8Zzzz2Orya2Zzzz2",
     "Orya22Zzzz1Orya7Zzzz1Orya2Zzzz1Orya5Zzzz2Orya9Zzzz2Orya2Zzzz2Orya3Zzzz7Orya3Zzzz4Orya2",
     "Zzzz1Orya5Zzzz2Orya18Zzzz10Taml2Zzzz1Taml6Zzzz3Taml3Zzzz1Taml4Zzzz3Taml2Zzzz1Taml1Zzzz1",
     "Taml2Zzzz3Taml2Zzzz3Taml3Zzzz3Taml12Zzzz4Taml5Zzzz3Taml3Zzzz1Taml4Zzzz2Taml1Zzzz6Taml1",
     "Zzzz14Taml21Zzzz5Telu13Zzzz1Telu3Zzzz1Telu23Zzzz1Telu16Zzzz2Telu9Zzzz1Telu3Zzzz1Telu4Zzzz7",
     "Telu2Zzzz1Telu3Zzzz1Telu2Zzzz2Telu4Zzzz2Telu10Zzzz7Telu9Knda13Zzzz1Knda3Zzzz1Knda23Zzzz1",
     "Knda10Zzzz1Knda5Zzzz2Knda9Zzzz1Knda3Zzzz1Knda4Zzzz7Knda2Zzzz5Knda3Zzzz1Knda4Zzzz2Knda10",
     "Zzzz1Knda3Zzzz12Mlym13Zzzz1Mlym3Zzzz1Mlym51Zzzz1Mlym3Zzzz1Mlym6Zzzz4Mlym16Zzzz2Mlym26Zzzz1",
     "Sinh3Zzzz1Sinh18Zzzz3Sinh24Zzzz1Sinh9Zzzz1Sinh1Zzzz2Sinh7Zzzz3Sinh1Zzzz4Sinh6Zzzz1Sinh1",
     "Zzzz1Sinh8Zzzz6Sinh10Zzzz2Sinh3Zzzz12Thai58Zzzz4Zyyy1Thai28Zzzz37Laoo2Zzzz1Laoo1Zzzz1Laoo5",
     "Zzzz1Laoo24Zzzz1Laoo1Zzzz1Laoo23Zzzz2Laoo5Zzzz1Laoo1Zzzz1Laoo7Zzzz1Laoo10Zzzz2Laoo4Zzzz32",
     "Tibt72Zzzz1Tibt36Zzzz4Tibt39Zzzz1Tibt36Zzzz1Tibt15Zzzz1Tibt7Zyyy4Tibt2Zzzz37Mymr160Geor38",
     "Zzzz1Geor1Zzzz5Geor1Zzzz2Geor43Zyyy1Geor4Hang256Ethi73Zzzz1Ethi4Zzzz2Ethi7Zzzz1Ethi1Zzzz1",
     "Ethi4Zzzz2Ethi41Zzzz1Ethi4Zzzz2Ethi33Zzzz1Ethi4Zzzz2Ethi7Zzzz1Ethi1Zzzz1Ethi4Zzzz2Ethi15",
     "Zzzz1Ethi57Zzzz1Ethi4Zzzz2Ethi67Zzzz2Ethi32Zzzz3Ethi26Zzzz6Cher86Zzzz2Cher6Zzzz2Cans640",
     "Ogam29Zzzz3Runr75Zyyy3Runr11Zzzz7Tglg22Zzzz9Tglg1Hano21Zyyy2Zzzz9Buhd20Zzzz12Tagb13Zzzz1",
     "Tagb3Zzzz1Tagb2Zzzz12Khmr94Zzzz2Khmr10Zzzz6Khmr10Zzzz6Mong2Zyyy2Mong1Zyyy1Mong20Zzzz6",
     "Mong89Zzzz7Mong43Zzzz5Cans70Zzzz10Limb31Zzzz1Limb12Zzzz4Limb12Zzzz4Limb1Zzzz3Limb12Tale30",
     "Zzzz2Tale5Zzzz11Talu44Zzzz4Talu26Zzzz6Talu11Zzzz3Talu2Khmr32Bugi28Zzzz2Bugi2Lana63Zzzz1",
     "Lana29Zzzz2Lana11Zzzz6Lana10Zzzz6Lana14Zzzz2Zinh46Zzzz2Zinh12Zzzz20Bali77Zzzz1Bali50Sund64",
     "Batk52Zzzz8Batk4Lepc56Zzzz3Lepc15Zzzz3Lepc3Olck48Cyrl11Zzzz5Geor43Zzzz2Geor3Sund8Zzzz8",
     "Zinh3Zyyy1Zinh13Zyyy1Zinh7Zyyy4Zinh1Zyyy6Zinh1Zyyy3Zinh2Zyyy1Zzzz5Latn38Grek5Cyrl1Latn49",
     "Grek5Latn4Grek5Latn13Cyrl1Latn70Grek1Zinh64Latn256Grek22Zzzz2Grek6Zzzz2Grek38Zzzz2Grek6",
     "Zzzz2Grek8Zzzz1Grek1Zzzz1Grek1Zzzz1Grek1Zzzz1Grek31Zzzz2Grek53Zzzz1Grek15Zzzz1Grek14Zzzz2",
     "Grek6Zzzz1Grek19Zzzz2Grek3Zzzz1Grek9Zzzz1Zyyy12Zinh2Zyyy87Zzzz1Zyyy11Latn1Zzzz2Zyyy11Latn1",
     "Zyyy15Zzzz1Latn13Zzzz3Zyyy34Zzzz14Zinh33Zzzz15Zyyy38Grek1Zyyy3Latn2Zyyy6Latn1Zyyy27Latn1",
     "Zyyy17Latn41Zyyy3Zzzz4Zyyy666Zzzz22Zyyy11Zzzz21Zyyy928Brai256Zyyy628Zzzz2Zyyy138Glag96",
     "Latn32Copt116Zzzz5Copt7Geor38Zzzz1Geor1Zzzz5Geor1Zzzz2Tfng56Zzzz7Tfng2Zzzz14Tfng1Ethi23",
     "Zzzz9Ethi7Zzzz1Ethi7Zzzz1Ethi7Zzzz1Ethi7Zzzz1Ethi7Zzzz1Ethi7Zzzz1Ethi7Zzzz1Ethi7Zzzz1",
     "Cyrl32Zyyy94Zzzz34Hani26Zzzz1Hani89Zzzz12Hani214Zzzz26Zyyy21Hani1Zyyy1Hani1Zyyy25Hani9",
     "Zinh4Hang2Zyyy8Hani4Zyyy4Zzzz1Hira86Zzzz2Zinh2Zyyy2Hira3Zyyy1Kana90Zyyy2Kana3Zzzz5Bopo43",
     "Zzzz1Hang94Zzzz1Zyyy16Bopo32Zyyy38Zzzz9Zyyy1Kana16Hang31Zzzz1Zyyy64Hang31Zyyy81Kana47Zyyy1",
     "Kana88Zyyy168Hani6592Zyyy64Hani20992Yiii1165Zzzz3Yiii55Zzzz9Lisu48Vaii300Zzzz20Cyrl96",
     "Bamu88Zzzz8Zyyy34Latn102Zyyy3Latn82Zzzz20Latn15Sylo45Zzzz3Zyyy10Zzzz6Phag56Zzzz8Saur70",
     "Zzzz8Saur12Zzzz6Deva32Kali46Zyyy1Kali1Rjng36Zzzz11Rjng1Hang29Zzzz3Java78Zzzz1Zyyy1Java10",
     "Zzzz4Java2Mymr31Zzzz1Cham55Zzzz9Cham14Zzzz2Cham10Zzzz2Cham4Mymr32Tavt67Zzzz24Tavt5Mtei23",
     "Zzzz10Ethi6Zzzz2Ethi6Zzzz2Ethi6Zzzz9Ethi7Zzzz1Ethi7Zzzz1Latn43Zyyy1Latn9Grek1Latn4Zyyy2",
     "Zzzz4Cher80Mtei46Zzzz2Mtei10Zzzz6Hang11172Zzzz12Hang23Zzzz4Hang49Zzzz8452Hani366Zzzz2",
     "Hani106Zzzz38Latn7Zzzz12Armn5Zzzz5Hebr26Zzzz1Hebr5Zzzz1Hebr1Zzzz1Hebr2Zzzz1Hebr2Zzzz1",
     "Hebr10Arab494Zyyy2Arab144Zzzz32Arab16Zinh16Zyyy10Zzzz6Zinh14Cyrl2Zyyy35Zzzz1Zyyy19Zzzz1",
     "Zyyy4Zzzz4Arab5Zzzz1Arab135Zzzz2Zyyy1Zzzz1Zyyy32Latn26Zyyy6Latn26Zyyy11Kana10Zyyy1Kana45",
     "Zyyy2Hang31Zzzz3Hang6Zzzz2Hang6Zzzz2Hang6Zzzz2Hang3Zzzz3Zyyy7Zzzz1Zyyy7Zzzz10Zyyy5Zzzz2",
     "Linb12Zzzz1Linb26Zzzz1Linb19Zzzz1Linb2Zzzz1Linb15Zzzz2Linb14Zzzz34Linb123Zzzz5Zyyy3Zzzz4",
     "Zyyy45Zzzz3Zyyy9Grek79Zzzz1Zyyy13Zzzz3Grek1Zzzz47Zyyy45Zinh1Zzzz130Lyci29Zzzz3Cari49Zzzz15",
     "Zinh1Zyyy27Zzzz4Ital36Zzzz9Ital3Goth27Zzzz5Perm43Zzzz5Ugar30Zzzz1Ugar1Xpeo36Zzzz4Xpeo14",
     "Zzzz42Dsrt80Shaw48Osma30Zzzz2Osma10Zzzz6Osge36Zzzz4Osge36Zzzz4Elba40Zzzz8Aghb52Zzzz11Aghb1",
     "Vith11Zzzz1Vith15Zzzz1Vith7Zzzz1Vith2Zzzz1Vith11Zzzz1Vith15Zzzz1Vith7Zzzz1Vith2Zzzz3Todr52",
     "Zzzz12Lina311Zzzz9Lina22Zzzz10Lina8Zzzz24Latn6Zzzz1Latn42Zzzz1Latn9Zzzz69Cprt6Zzzz2Cprt1",
     "Zzzz1Cprt44Zzzz1Cprt2Zzzz3Cprt1Zzzz2Cprt1Armi22Zzzz1Armi9Palm32Nbat31Zzzz8Nbat9Zzzz48",
     "Hatr19Zzzz1Hatr2Zzzz5Hatr5Phnx28Zzzz3Phnx1Lydi26Zzzz5Lydi1Sidt26Zzzz38Mero32Merc24Zzzz4",
     "Merc20Zzzz2Merc46Khar4Zzzz1Khar2Zzzz5Khar8Zzzz1Khar3Zzzz1Khar29Zzzz2Khar3Zzzz4Khar10Zzzz7",
     "Khar9Zzzz7Sarb32Narb32Zzzz32Mani39Zzzz4Mani12Zzzz9Avst54Zzzz3Avst7Prti22Zzzz2Prti8Phli19",
     "Zzzz5Phli8Phlp18Zzzz7Phlp4Zzzz12Phlp7Zzzz80Orkh73Zzzz55Hung51Zzzz13Hung51Zzzz7Hung6Rohg40",
     "Zzzz8Rohg10Zzzz6Gara38Zzzz3Gara29Zzzz8Gara2Zzzz208Arab31Zzzz1Yezi42Zzzz1Yezi3Zzzz2Yezi2",
     "Zzzz16Arab6Zzzz8Arab9Zzzz33Arab6Sogo40Zzzz8Sogd42Zzzz22Ougr26Zzzz38Chrs28Zzzz20Elym23Zzzz9",
     "Brah78Zzzz4Brah36Zzzz9Brah1Kthi67Zzzz10Kthi1Zzzz2Sora25Zzzz7Sora10Zzzz6Cakm53Zzzz1Cakm18",
     "Zzzz8Mahj39Zzzz9Shrd96Zzzz1Sinh20Zzzz11Khoj18Zzzz1Khoj47Zzzz62Mult7Zzzz1Mult1Zzzz1Mult4",
     "Zzzz1Mult15Zzzz1Mult11Zzzz6Sind59Zzzz5Sind10Zzzz6Gran4Zzzz1Gran8Zzzz2Gran2Zzzz2Gran22Zzzz1",
     "Gran7Zzzz1Gran2Zzzz1Gran5Zzzz1Zinh1Gran9Zzzz2Gran2Zzzz2Gran3Zzzz2Gran1Zzzz6Gran1Zzzz5Gran7",
     "Zzzz2Gran7Zzzz3Gran5Zzzz11Tutg10Zzzz1Tutg1Zzzz2Tutg1Zzzz1Tutg38Zzzz1Tutg10Zzzz1Tutg1Zzzz2",
     "Tutg1Zzzz1Tutg4Zzzz1Tutg10Zzzz1Tutg2Zzzz8Tutg2Zzzz29Newa92Zzzz1Newa5Zzzz30Tirh72Zzzz8",
     "Tirh10Zzzz166Sidd54Zzzz2Sidd38Zzzz34Modi69Zzzz11Modi10Zzzz6Mong13Zzzz19Takr58Zzzz6Takr10",
     "Zzzz6Mymr20Zzzz28Ahom27Zzzz2Ahom15Zzzz4Ahom23Zzzz185Dogr60Zzzz100Wara83Zzzz12Wara1Diak7",
     "Zzzz2Diak1Zzzz2Diak8Zzzz1Diak2Zzzz1Diak30Zzzz1Diak2Zzzz2Diak12Zzzz9Diak10Zzzz70Nand8Zzzz2",
     "Nand46Zzzz2Nand11Zzzz27Zanb72Zzzz8Soyo83Zzzz13Cans16Pauc57Zzzz7Deva10Zzzz86Shrd8Zzzz88",
     "Sunu34Zzzz14Sunu10Zzzz6Bhks9Zzzz1Bhks45Zzzz1Bhks14Zzzz10Bhks29Zzzz3Marc32Zzzz2Marc22Zzzz1",
     "Marc14Zzzz73Gonm7Zzzz1Gonm2Zzzz1Gonm44Zzzz3Gonm1Zzzz1Gonm2Zzzz1Gonm9Zzzz8Gonm10Zzzz6Gong6",
     "Zzzz1Gong2Zzzz1Gong37Zzzz1Gong2Zzzz1Gong6Zzzz7Gong10Zzzz6Tols44Zzzz4Tols10Zzzz246Maka25",
     "Zzzz7Kawi17Zzzz1Kawi41Zzzz3Kawi29Zzzz85Lisu1Zzzz15Taml50Zzzz13Taml1Xsux922Zzzz102Xsux111",
     "Zzzz1Xsux5Zzzz11Xsux196Zzzz2636Cpmn99Zzzz13Egyp1110Zzzz10Egyp3995Zzzz5Hluw583Zzzz6841",
     "Gukh58Zzzz1734Bamu569Zzzz7Mroo31Zzzz1Mroo10Zzzz4Mroo2Tnsa79Zzzz1Tnsa10Zzzz6Bass30Zzzz2",
     "Bass6Zzzz10Hmng70Zzzz10Hmng10Zzzz1Hmng7Zzzz1Hmng21Zzzz5Hmng19Zzzz432Krai58Zzzz198Medf91",
     "Zzzz5Berf25Zzzz2Berf25Zzzz44Plrd75Zzzz4Plrd57Zzzz7Plrd17Zzzz64Tang1Nshu1Hani2Kits1Zzzz11",
     "Hani7Zzzz9Tang6912Kits470Zzzz41Kits1Tang31Zzzz97Tang115Zzzz8701Kana4Zzzz1Kana7Zzzz1Kana2",
     "Zzzz1Kana1Hira287Kana3Zzzz15Hira1Zzzz29Hira3Zzzz2Kana1Zzzz14Kana4Zzzz8Nshu396Zzzz2308",
     "Dupl107Zzzz5Dupl13Zzzz3Dupl9Zzzz7Dupl10Zzzz2Dupl4Zyyy4Zzzz3932Zyyy253Zzzz3Zyyy436Zzzz6",
     "Zyyy23Zzzz15Zyyy17Zzzz15Zinh46Zzzz2Zinh23Zzzz9Zyyy116Zzzz60Zyyy246Zzzz10Zyyy39Zzzz2Zyyy62",
     "Zinh3Zyyy17Zinh8Zyyy2Zinh7Zyyy30Zinh4Zyyy61Zzzz21Grek70Zzzz122Zyyy20Zzzz12Zyyy20Zzzz12",
     "Zyyy87Zzzz9Zyyy25Zzzz135Zyyy85Zzzz1Zyyy71Zzzz1Zyyy2Zzzz2Zyyy1Zzzz2Zyyy2Zzzz2Zyyy4Zzzz1",
     "Zyyy12Zzzz1Zyyy1Zzzz1Zyyy7Zzzz1Zyyy65Zzzz1Zyyy4Zzzz2Zyyy8Zzzz1Zyyy7Zzzz1Zyyy28Zzzz1Zyyy4",
     "Zzzz1Zyyy5Zzzz1Zyyy1Zzzz3Zyyy7Zzzz1Zyyy340Zzzz2Zyyy292Zzzz2Zyyy50Sgnw652Zzzz15Sgnw5Zzzz1",
     "Sgnw15Zzzz1104Latn31Zzzz6Latn6Zzzz213Glag7Zzzz1Glag17Zzzz2Glag7Zzzz1Glag2Zzzz1Glag5Zzzz5",
     "Cyrl62Zzzz33Cyrl1Zzzz112Hmnp45Zzzz3Hmnp14Zzzz2Hmnp10Zzzz4Hmnp2Zzzz320Toto31Zzzz17Wcho58",
     "Zzzz5Wcho1Zzzz464Nagm42Zzzz214Onao43Zzzz4Onao1Zzzz192Tayo31Zzzz1Tayo22Zzzz8Tayo2Zzzz224",
     "Ethi7Zzzz1Ethi4Zzzz1Ethi2Zzzz1Ethi15Zzzz1Mend197Zzzz2Mend16Zzzz41Adlm76Zzzz4Adlm10Zzzz4",
     "Adlm2Zzzz785Zyyy68Zzzz76Zyyy61Zzzz194Arab4Zzzz1Arab27Zzzz1Arab2Zzzz1Arab1Zzzz2Arab1Zzzz1",
     "Arab10Zzzz1Arab4Zzzz1Arab1Zzzz1Arab1Zzzz6Arab1Zzzz4Arab1Zzzz1Arab1Zzzz1Arab1Zzzz1Arab3",
     "Zzzz1Arab2Zzzz1Arab1Zzzz2Arab1Zzzz1Arab1Zzzz1Arab1Zzzz1Arab1Zzzz1Arab1Zzzz1Arab2Zzzz1Arab1",
     "Zzzz2Arab4Zzzz1Arab7Zzzz1Arab4Zzzz1Arab4Zzzz1Arab1Zzzz1Arab10Zzzz1Arab17Zzzz5Arab3Zzzz1",
     "Arab5Zzzz1Arab17Zzzz52Arab2Zzzz270Zyyy44Zzzz4Zyyy100Zzzz12Zyyy15Zzzz2Zyyy15Zzzz1Zyyy15",
     "Zzzz1Zyyy37Zzzz10Zyyy174Zzzz56Zyyy26Hira1Zyyy2Zzzz13Zyyy44Zzzz4Zyyy9Zzzz7Zyyy2Zzzz14Zyyy6",
     "Zzzz154Zyyy985Zzzz3Zyyy17Zzzz3Zyyy13Zzzz3Zyyy218Zzzz6Zyyy12Zzzz4Zyyy1Zzzz15Zyyy12Zzzz4",
     "Zyyy56Zzzz8Zyyy10Zzzz6Zyyy40Zzzz8Zyyy30Zzzz2Zyyy12Zzzz4Zyyy2Zzzz14Zyyy9Zzzz39Zyyy344Zzzz8",
     "Zyyy14Zzzz2Zyyy13Zzzz3Zyyy11Zzzz3Zyyy57Zzzz1Zyyy1Zzzz4Zyyy16Zzzz2Zyyy12Zzzz4Zyyy10Zzzz7",
     "Zyyy147Zzzz1Zyyy103Zzzz1029Hani42720Zzzz32Hani4382Zzzz2Hani5774Zzzz2Hani7473Zzzz15Hani622",
     "Zzzz2466Hani542Zzzz1506Hani4939Zzzz5Hani8490Zzzz707463Zyyy1Zzzz30Zyyy96Zzzz128Zinh240",
     "Zzzz196112"]

def scriptExtensions : String :=
  String.join
    ["183 1 AvstCariCoptDuplElbaGeorGlagGongGothGrekHaniLatnLydiMahjPermShaw 700 1 BengCyrlDeva",
     "LatnLisuThaiToto 711 1 BopoLatn 713 3 BopoLatn 717 1 LatnLisu 727 1 LatnThai 729 1 Bopo",
     "Latn 768 1 CherCoptCyrlGrekLatnPermSunuTale 769 1 CherCyrlGrekLatnOsgeSunuTaleTodr 770 1 ",
     "CherCyrlLatnTfng 771 1 GlagLatnSunuSyrcThai 772 1 AghbCherCoptCyrlGothGrekLatnOsgeSyrcTfng",
     "Todr 773 1 CoptElbaGlagGothKanaLatn 774 1 CyrlGrekLatnPerm 775 1 CoptDuplHebrLatnPermSyrc",
     "TaleTfngTodr 776 1 ArmnCyrlDuplGothGrekHebrLatnPermSyrcTale 777 1 LatnTfng 778 1 DuplLatn",
     "Syrc 779 1 CherCyrlLatnOsge 780 1 CherLatnTale 781 1 LatnSunu 782 1 EthiLatn 784 1 Latn",
     "Sunu 785 1 CyrlLatnTodr 787 1 GrekLatnPermTodr 800 1 LatnSyrc 803 1 CherDuplKanaLatnSyrc ",
     "804 1 CherDuplLatnSyrc 805 1 LatnSyrc 813 1 LatnSunuSyrc 814 1 LatnSyrc 816 1 CherLatn",
     "Syrc 817 1 AghbCherGothLatnSunuThai 834 1 Grek 837 1 Grek 856 1 LatnOsge 862 1 AghbLatn",
     "Todr 867 13 Latn 884 2 CoptGrek 1155 1 CyrlPerm 1156 1 CyrlGlag 1157 2 CyrlLatn 1159 1 ",
     "CyrlGlag 1417 1 ArmnGeorGlag 1548 1 ArabGaraNkooRohgSyrcThaaYezi 1563 1 ArabGaraNkooRohg",
     "SyrcThaaYezi 1564 1 ArabSyrcThaa 1567 1 AdlmArabGaraNkooRohgSyrcThaaYezi 1600 1 AdlmArab",
     "MandManiOugrPhlpRohgSogdSyrc 1611 11 ArabSyrc 1632 10 ArabThaaYezi 1648 1 ArabSyrc 1748 1 ",
     "ArabRohg 2385 1 BengDevaGranGujrGuruKndaLatnMlymOryaShrdTamlTeluTirh 2386 1 BengDevaGran",
     "GujrGuruKndaLatnMlymOryaTamlTeluTirh 2404 1 BengDevaDogrGongGonmGranGujrGuruKndaMahjMlym",
     "NandOnaoOryaSindSinhSyloTakrTamlTeluTirh 2405 1 BengDevaDogrGongGonmGranGujrGukhGuruKnda",
     "LimbMahjMlymNandOnaoOryaSindSinhSyloTakrTamlTeluTirh 2406 10 DevaDogrKthiMahj 2534 10 Beng",
     "CakmSylo 2662 10 GuruMult 2790 10 GujrKhoj 3046 14 GranTaml 3302 10 KndaNand 4160 10 Cakm",
     "MymrTale 4347 1 GeorGlagLatn 5867 3 Runr 5941 2 BuhdHanoTagbTglg 6146 2 MongPhag 6149 1 ",
     "MongPhag 7376 1 BengDevaGranKnda 7377 1 Deva 7378 1 BengDevaGranKnda 7379 1 DevaGran ",
     "7380 1 Deva 7381 2 BengDeva 7383 1 DevaShrd 7384 1 BengDeva 7385 1 DevaShrd 7386 1 Deva",
     "KndaMlymOryaTamlTelu 7387 1 Deva 7388 2 DevaShrd 7390 2 Deva 7392 1 DevaShrd 7393 1 Beng",
     "Deva 7394 7 Deva 7401 1 DevaNand 7402 1 BengDeva 7403 2 Deva 7405 1 BengDeva 7406 4 Deva ",
     "7410 1 BengDevaGranKndaNandOryaTeluTirh 7411 1 DevaGran 7412 1 DevaGranKnda 7413 2 Beng",
     "Deva 7415 1 Beng 7416 2 DevaGran 7418 1 Nand 7616 2 Grek 7672 1 CyrlLatnSyrc 7674 1 Syrc ",
     "8239 1 LatnMongPhag 8271 1 AdlmArab 8282 1 CariGeorGlagHungLyciOrkh 8285 1 CariGrekHung",
     "Mero 8432 1 DevaGranLatn 11799 1 Copt 11824 1 AvstOrkh 11825 1 AvstCariGeorHungKthiLydi",
     "Samr 11836 1 Dupl 11841 1 AdlmArabHung 11843 1 CyrlGlag 12272 16 HaniTang 12289 2 BopoHang",
     "HaniHiraKanaYiii 12291 1 BopoHangHaniHiraKana 12294 1 Hani 12296 10 BopoHangHaniHiraKana",
     "Yiii 12307 1 BopoHangHaniHiraKana 12308 8 BopoHangHaniHiraKanaYiii 12316 4 BopoHangHani",
     "HiraKana 12330 4 BopoHani 12336 1 BopoHangHaniHiraKana 12337 5 HiraKana 12343 1 BopoHang",
     "HaniHiraKana 12348 2 HaniHiraKana 12350 2 Hani 12441 4 HiraKana 12448 1 HiraKana 12539 1 ",
     "BopoHangHaniHiraKanaYiii 12540 1 HiraKana 12688 16 Hani 12736 38 Hani 12783 1 HaniTang ",
     "12832 40 Hani 12928 49 Hani 12992 12 Hani 13055 1 Hani 13144 25 Hani 13179 5 Hani ",
     "13280 31 Hani 42607 1 CyrlGlag 42752 8 HaniLatn 43056 3 DevaDogrGujrGuruKhojKndaKthiMahj",
     "MlymModiNandSindTakrTirh 43059 3 DevaDogrGujrGuruKhojKndaKthiMahjModiNandSindTakrTirh ",
     "43062 4 DevaDogrGujrGuruKhojKthiMahjModiSindTakrTirh 43249 1 BengDeva 43251 1 DevaTaml ",
     "43310 1 KaliLatnMymr 43471 1 BugiJava 64830 2 ArabNkoo 65010 1 ArabThaa 65021 1 ArabThaa ",
     "65093 2 BopoHangHaniHiraKana 65377 5 BopoHangHaniHiraKanaYiii 65392 1 HiraKana 65438 2 ",
     "HiraKana 65792 2 CpmnCprtLinb 65794 1 CprtLinb 65799 45 CprtLinaLinb 65847 9 CprtLinb ",
     "66272 28 ArabCopt 68338 1 ManiOugr 70401 1 GranTaml 70403 1 GranTaml 70459 2 GranTaml ",
     "73680 2 GranTaml 73683 1 GranTaml 113824 4 Dupl 119648 18 Hani 127568 2 Hani"]

end DevConsole.Unicode
