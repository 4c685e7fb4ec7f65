import LiveChat.Url.Domain.Joining

/-!
What the characters of a domain name stand for (Unicode 17). Letters stand for their lower case
and characters with a special form for those they are a form of; some stand for nothing at all,
and some have no place in a name.
-/

set_option autoImplicit false

namespace LiveChat.Url.Domain

/-- Code points from the first to the second, in steps, with the distance to what they stand
for. -/
def shifts : List (Nat × Nat × Nat × Int) :=
  [(0xC0, 0xD6, 1, 32), (0xD8, 0xDE, 1, 32), (0x100, 0x12E, 2, 1), (0x141, 0x147, 2, 1),
    (0x14A, 0x176, 2, 1), (0x1CD, 0x1DB, 2, 1), (0x1DE, 0x1EE, 2, 1), (0x1F8, 0x21E, 2, 1),
    (0x222, 0x232, 2, 1), (0x246, 0x24E, 2, 1), (0x391, 0x3A1, 1, 32), (0x3A3, 0x3AB, 1, 32),
    (0x3D8, 0x3EE, 2, 1), (0x400, 0x40F, 1, 80), (0x410, 0x42F, 1, 32), (0x460, 0x480, 2, 1),
    (0x48A, 0x4BE, 2, 1), (0x4C1, 0x4CD, 2, 1), (0x4D0, 0x52E, 2, 1), (0x531, 0x556, 1, 48),
    (0x10A0, 0x10C5, 1, 7264), (0x13F8, 0x13FD, 1, -8), (0x1C90, 0x1CBA, 1, -3008),
    (0x1D31, 0x1D39, 2, -7372), (0x1D34, 0x1D3A, 2, -7372), (0x1DAE, 0x1DB1, 1, -6972),
    (0x1E00, 0x1E94, 2, 1), (0x1EA0, 0x1EFE, 2, 1), (0x1F08, 0x1F0F, 1, -8),
    (0x1F18, 0x1F1D, 1, -8), (0x1F28, 0x1F2F, 1, -8), (0x1F38, 0x1F3F, 1, -8),
    (0x1F48, 0x1F4D, 1, -8), (0x1F59, 0x1F5F, 2, -8), (0x1F68, 0x1F6F, 1, -8),
    (0x2074, 0x2079, 1, -8256), (0x2080, 0x2089, 1, -8272), (0x2096, 0x2099, 1, -8235),
    (0x2135, 0x2138, 1, -7013), (0x2460, 0x2468, 1, -9263), (0x24B6, 0x24CF, 1, -9301),
    (0x24D0, 0x24E9, 1, -9327), (0x2C00, 0x2C2F, 1, 48), (0x2C80, 0x2CE2, 2, 1),
    (0x313A, 0x313F, 1, -8074), (0x3145, 0x314E, 1, -8252), (0x314F, 0x3163, 1, -8174),
    (0x3178, 0x317C, 1, -8269), (0x3269, 0x326D, 1, -8539), (0x32E4, 0x32E9, 1, -538),
    (0x32EE, 0x32F2, 1, -528), (0x32F5, 0x32FA, 1, -525), (0x32FB, 0x32FE, 1, -524),
    (0xA640, 0xA66C, 2, 1), (0xA680, 0xA69A, 2, 1), (0xA722, 0xA72E, 2, 1), (0xA732, 0xA76E, 2, 1),
    (0xA77E, 0xA786, 2, 1), (0xA796, 0xA7A8, 2, 1), (0xA7B4, 0xA7C2, 2, 1), (0xA7CC, 0xA7DA, 2, 1),
    (0xAB70, 0xABBF, 1, -38864), (0xFE41, 0xFE44, 1, -52789), (0xFF01, 0xFF20, 1, -65248),
    (0xFF21, 0xFF3A, 1, -65216), (0xFF3B, 0xFF5E, 1, -65248), (0xFF85, 0xFF8A, 1, -52923),
    (0xFF8F, 0xFF93, 1, -52913), (0xFF96, 0xFF9B, 1, -52910), (0xFFAA, 0xFFAF, 1, -60922),
    (0xFFB5, 0xFFBE, 1, -61100), (0xFFC2, 0xFFC7, 1, -61025), (0xFFCA, 0xFFCF, 1, -61027),
    (0xFFD2, 0xFFD7, 1, -61029), (0xFFE9, 0xFFEC, 1, -56921), (0x10400, 0x10427, 1, 40),
    (0x104B0, 0x104D3, 1, 40), (0x10570, 0x10594, 2, 39), (0x10571, 0x10579, 2, 39),
    (0x1057D, 0x10589, 2, 39), (0x10C80, 0x10CB2, 1, 64), (0x10D50, 0x10D65, 1, 32),
    (0x118A0, 0x118BF, 1, 32), (0x16E40, 0x16E5F, 1, 32), (0x16EA0, 0x16EB8, 1, 27),
    (0x1CCD6, 0x1CCEF, 1, -117877), (0x1CCF0, 0x1CCF9, 1, -117952), (0x1D400, 0x1D419, 1, -119711),
    (0x1D41A, 0x1D433, 1, -119737), (0x1D434, 0x1D44D, 1, -119763), (0x1D44E, 0x1D466, 2, -119789),
    (0x1D457, 0x1D467, 2, -119789), (0x1D468, 0x1D481, 1, -119815), (0x1D482, 0x1D49B, 1, -119841),
    (0x1D4A9, 0x1D4AC, 1, -119867), (0x1D4AE, 0x1D4B5, 1, -119867), (0x1D4B6, 0x1D4B9, 1, -119893),
    (0x1D4BB, 0x1D4CF, 2, -119893), (0x1D4C6, 0x1D4CE, 2, -119893), (0x1D4D0, 0x1D4E9, 1, -119919),
    (0x1D4EA, 0x1D503, 1, -119945), (0x1D507, 0x1D50A, 1, -119971), (0x1D50D, 0x1D514, 1, -119971),
    (0x1D516, 0x1D51C, 1, -119971), (0x1D51E, 0x1D537, 1, -119997), (0x1D53B, 0x1D53E, 1, -120023),
    (0x1D540, 0x1D544, 1, -120023), (0x1D54A, 0x1D550, 1, -120023), (0x1D552, 0x1D56B, 1, -120049),
    (0x1D56C, 0x1D585, 1, -120075), (0x1D586, 0x1D59F, 1, -120101), (0x1D5A0, 0x1D5B9, 1, -120127),
    (0x1D5BA, 0x1D5D3, 1, -120153), (0x1D5D4, 0x1D5ED, 1, -120179), (0x1D5EE, 0x1D607, 1, -120205),
    (0x1D608, 0x1D621, 1, -120231), (0x1D622, 0x1D63B, 1, -120257), (0x1D63C, 0x1D655, 1, -120283),
    (0x1D656, 0x1D66F, 1, -120309), (0x1D670, 0x1D689, 1, -120335), (0x1D68A, 0x1D6A3, 1, -120361),
    (0x1D6A8, 0x1D6B8, 1, -119543), (0x1D6BA, 0x1D6C0, 1, -119543), (0x1D6C2, 0x1D6D2, 1, -119569),
    (0x1D6D4, 0x1D6DA, 1, -119569), (0x1D6E2, 0x1D6F2, 1, -119601), (0x1D6F4, 0x1D6FA, 1, -119601),
    (0x1D6FC, 0x1D70C, 1, -119627), (0x1D70E, 0x1D714, 1, -119627), (0x1D71C, 0x1D72C, 1, -119659),
    (0x1D72E, 0x1D734, 1, -119659), (0x1D736, 0x1D746, 1, -119685), (0x1D748, 0x1D74E, 1, -119685),
    (0x1D756, 0x1D766, 1, -119717), (0x1D768, 0x1D76E, 1, -119717), (0x1D770, 0x1D780, 1, -119743),
    (0x1D782, 0x1D788, 1, -119743), (0x1D790, 0x1D7A0, 1, -119775), (0x1D7A2, 0x1D7A8, 1, -119775),
    (0x1D7AA, 0x1D7BA, 1, -119801), (0x1D7BC, 0x1D7C2, 1, -119801), (0x1D7CE, 0x1D7D7, 1, -120734),
    (0x1D7D8, 0x1D7E1, 1, -120744), (0x1D7E2, 0x1D7EB, 1, -120754), (0x1D7EC, 0x1D7F5, 1, -120764),
    (0x1D7F6, 0x1D7FF, 1, -120774), (0x1E030, 0x1E038, 1, -121856), (0x1E03C, 0x1E046, 1, -121854),
    (0x1E051, 0x1E059, 1, -121889), (0x1E05F, 0x1E064, 1, -121884), (0x1E900, 0x1E921, 1, 34),
    (0x1EE0A, 0x1EE0D, 1, -124871), (0x1EE2A, 0x1EE2D, 1, -124903), (0x1F130, 0x1F149, 1, -127183),
    (0x1FBF0, 0x1FBF9, 1, -129984)]

/-- Code points from the first to the second, each with a character that it stands for. -/
def singleImages : List (Nat × Nat × String) :=
  [(0xAA, 0xAA, "a"), (0xB2, 0xB3, "23"), (0xB5, 0xB5, "μ"), (0xB9, 0xBA, "1o"),
    (0x134, 0x134, "ĵ"), (0x136, 0x136, "ķ"), (0x139, 0x139, "ĺ"), (0x13B, 0x13B, "ļ"),
    (0x13D, 0x13D, "ľ"), (0x178, 0x179, "ÿź"), (0x17B, 0x17B, "ż"), (0x17D, 0x17D, "ž"),
    (0x17F, 0x17F, "s"), (0x181, 0x182, "ɓƃ"), (0x184, 0x184, "ƅ"), (0x186, 0x187, "ɔƈ"),
    (0x189, 0x18B, "ɖɗƌ"), (0x18E, 0x191, "ǝəɛƒ"), (0x193, 0x194, "ɠɣ"), (0x196, 0x198, "ɩɨƙ"),
    (0x19C, 0x19D, "ɯɲ"), (0x19F, 0x1A0, "ɵơ"), (0x1A2, 0x1A2, "ƣ"), (0x1A4, 0x1A4, "ƥ"),
    (0x1A6, 0x1A7, "ʀƨ"), (0x1A9, 0x1A9, "ʃ"), (0x1AC, 0x1AC, "ƭ"), (0x1AE, 0x1AF, "ʈư"),
    (0x1B1, 0x1B3, "ʊʋƴ"), (0x1B5, 0x1B5, "ƶ"), (0x1B7, 0x1B8, "ʒƹ"), (0x1BC, 0x1BC, "ƽ"),
    (0x1F4, 0x1F4, "ǵ"), (0x1F6, 0x1F7, "ƕƿ"), (0x220, 0x220, "ƞ"), (0x23A, 0x23B, "ⱥȼ"),
    (0x23D, 0x23E, "ƚⱦ"), (0x241, 0x241, "ɂ"), (0x243, 0x245, "ƀʉʌ"), (0x2B0, 0x2B8, "hɦjrɹɻʁwy"),
    (0x2E0, 0x2E4, "ɣlsxʕ"), (0x340, 0x341, "\u0300\u0301"), (0x343, 0x343, "\u0313"),
    (0x345, 0x345, "ι"), (0x370, 0x370, "ͱ"), (0x372, 0x372, "ͳ"), (0x374, 0x374, "ʹ"),
    (0x376, 0x376, "ͷ"), (0x37E, 0x37F, ";ϳ"), (0x386, 0x38A, "ά·έήί"), (0x38C, 0x38C, "ό"),
    (0x38E, 0x38F, "ύώ"), (0x3CF, 0x3D6, "ϗβθυύϋφπ"), (0x3F0, 0x3F2, "κρσ"), (0x3F4, 0x3F5, "θε"),
    (0x3F7, 0x3F7, "ϸ"), (0x3F9, 0x3FA, "σϻ"), (0x3FD, 0x3FF, "ͻͼͽ"), (0x4C0, 0x4C0, "ӏ"),
    (0xF0C, 0xF0C, "་"), (0x10C7, 0x10C7, "ⴧ"), (0x10CD, 0x10CD, "ⴭ"), (0x10FC, 0x10FC, "ნ"),
    (0x1C80, 0x1C89, "вдосттъѣꙋᲊ"), (0x1CBD, 0x1CBF, "ჽჾჿ"), (0x1D2C, 0x1D2E, "aæb"),
    (0x1D30, 0x1D30, "d"), (0x1D32, 0x1D32, "ǝ"), (0x1D3C, 0x1D4D, "oȣprtuwaɐɑᴂbdeəɛɜg"),
    (0x1D4F, 0x1D6A, "kmŋoɔᴖᴗptuᴝɯvᴥβγδφχiruvβγρφχ"), (0x1D78, 0x1D78, "н"),
    (0x1D9B, 0x1DAD, "ɒcɕðɜfɟɡɥɨɩɪᵻʝɭᶅʟɱɰ"), (0x1DB2, 0x1DBF, "ɸʂʃƫʉʊᴜʋʌzʐʑʒθ"),
    (0x1E9B, 0x1E9B, "ṡ"), (0x1E9E, 0x1E9E, "ß"), (0x1F71, 0x1F71, "ά"), (0x1F73, 0x1F73, "έ"),
    (0x1F75, 0x1F75, "ή"), (0x1F77, 0x1F77, "ί"), (0x1F79, 0x1F79, "ό"), (0x1F7B, 0x1F7B, "ύ"),
    (0x1F7D, 0x1F7D, "ώ"), (0x1FB8, 0x1FBB, "ᾰᾱὰά"), (0x1FBE, 0x1FBE, "ι"),
    (0x1FC8, 0x1FCB, "ὲέὴή"), (0x1FD3, 0x1FD3, "ΐ"), (0x1FD8, 0x1FDB, "ῐῑὶί"),
    (0x1FE3, 0x1FE3, "ΰ"), (0x1FE8, 0x1FEC, "ῠῡὺύῥ"), (0x1FEF, 0x1FEF, "`"),
    (0x1FF8, 0x1FFB, "ὸόὼώ"), (0x2011, 0x2011, "‐"), (0x2070, 0x2071, "0i"),
    (0x207A, 0x207F, "+−=()n"), (0x208A, 0x208E, "+−=()"), (0x2090, 0x2095, "aeoxəh"),
    (0x209A, 0x209C, "pst"), (0x2102, 0x2102, "c"), (0x2107, 0x2107, "ɛ"),
    (0x210A, 0x2113, "ghhhhħiill"), (0x2115, 0x2115, "n"), (0x2119, 0x211D, "pqrrr"),
    (0x2124, 0x2124, "z"), (0x2126, 0x2126, "ω"), (0x2128, 0x2128, "z"), (0x212A, 0x212D, "kåbc"),
    (0x212F, 0x2134, "eefⅎmo"), (0x2139, 0x2139, "i"), (0x213C, 0x2140, "πγγπ∑"),
    (0x2145, 0x2149, "ddeij"), (0x2160, 0x2160, "i"), (0x2164, 0x2164, "v"), (0x2169, 0x2169, "x"),
    (0x216C, 0x2170, "lcdmi"), (0x2174, 0x2174, "v"), (0x2179, 0x2179, "x"),
    (0x217C, 0x217F, "lcdm"), (0x2183, 0x2183, "ↄ"), (0x2329, 0x232A, "〈〉"), (0x24EA, 0x24EA, "0"),
    (0x2C60, 0x2C60, "ⱡ"), (0x2C62, 0x2C64, "ɫᵽɽ"), (0x2C67, 0x2C67, "ⱨ"), (0x2C69, 0x2C69, "ⱪ"),
    (0x2C6B, 0x2C6B, "ⱬ"), (0x2C6D, 0x2C70, "ɑɱɐɒ"), (0x2C72, 0x2C72, "ⱳ"), (0x2C75, 0x2C75, "ⱶ"),
    (0x2C7C, 0x2C7F, "jvȿɀ"), (0x2CEB, 0x2CEB, "ⳬ"), (0x2CED, 0x2CED, "ⳮ"), (0x2CF2, 0x2CF2, "ⳳ"),
    (0x2D6F, 0x2D6F, "ⵡ"), (0x2E9F, 0x2E9F, "母"), (0x2EF3, 0x2EF3, "龟"),
    (0x2F00, 0x2F46, "一丨丶丿乙亅二亠人儿入八冂冖冫几凵刀力勹匕匚匸十卜卩厂厶又口囗土士夂夊夕大女子宀寸小尢尸屮山巛工己巾干幺广廴廾弋弓彐彡彳心戈戶手支攴文斗斤方无"),
    (0x2F47, 0x2F8D, "日曰月木欠止歹殳毋比毛氏气水火爪父爻爿片牙牛犬玄玉瓜瓦甘生用田疋疒癶白皮皿目矛矢石示禸禾穴立竹米糸缶网羊羽老而耒耳聿肉臣自至臼舌舛舟艮色艸虍虫"),
    (0x2F8E, 0x2FD4, "血行衣襾見角言谷豆豕豸貝赤走足身車辛辰辵邑酉釆里金長門阜隶隹雨靑非面革韋韭音頁風飛食首香馬骨高髟鬥鬯鬲鬼魚鳥鹵鹿麥麻黃黍黑黹黽鼎鼓鼠鼻齊齒龍龜"),
    (0x2FD5, 0x2FD5, "龠"), (0x3002, 0x3002, "."), (0x3036, 0x3036, "〒"), (0x3038, 0x303A, "十卄卅"),
    (0x3131, 0x3139, "ᄀᄁᆪᄂᆬᆭᄃᄄᄅ"), (0x3140, 0x3144, "ᄚᄆᄇᄈᄡ"),
    (0x3165, 0x3177, "ᄔᄕᇇᇈᇌᇎᇓᇗᇙᄜᇝᇟᄝᄞᄠᄢᄣᄧᄩ"), (0x317D, 0x318E, "ᄲᄶᅀᅇᅌᇱᇲᅗᅘᅙᆄᆅᆈᆑᆒᆔᆞᆡ"),
    (0x3192, 0x319F, "一二三四上中下甲乙丙丁天地人"), (0x3244, 0x3247, "問幼文箏"), (0x3260, 0x3268, "ᄀᄂᄃᄅᄆᄇᄉᄋᄌ"),
    (0x326E, 0x327B, "가나다라마바사아자차카타파하"), (0x327E, 0x327E, "우"),
    (0x3280, 0x32B0, "一二三四五六七八九十月火水木金土日株有社名特財祝労秘男女適優印注項休写正上中下左右医宗学監企資協夜"),
    (0x32D0, 0x32E3, "アイウエオカキクケコサシスセソタチツテト"), (0x32EA, 0x32ED, "ヒフヘホ"), (0x32F3, 0x32F4, "ヤユ"),
    (0xA69C, 0xA69D, "ъь"), (0xA770, 0xA770, "ꝯ"), (0xA779, 0xA779, "ꝺ"), (0xA77B, 0xA77B, "ꝼ"),
    (0xA77D, 0xA77D, "ᵹ"), (0xA78B, 0xA78B, "ꞌ"), (0xA78D, 0xA78D, "ɥ"), (0xA790, 0xA790, "ꞑ"),
    (0xA792, 0xA792, "ꞓ"), (0xA7AA, 0xA7AE, "ɦɜɡɬɪ"), (0xA7B0, 0xA7B3, "ʞʇʝꭓ"),
    (0xA7C4, 0xA7C7, "ꞔʂᶎꟈ"), (0xA7C9, 0xA7C9, "ꟊ"), (0xA7CB, 0xA7CB, "ɤ"), (0xA7DC, 0xA7DC, "ƛ"),
    (0xA7F1, 0xA7F5, "scfqꟶ"), (0xA7F8, 0xA7F9, "ħœ"), (0xAB5C, 0xAB5F, "ꜧꬷɫꭒ"),
    (0xAB69, 0xAB69, "ʍ"),
    (0xF900, 0xF946, "豈更車賈滑串句龜龜契金喇奈懶癩羅蘿螺裸邏樂洛烙珞落酪駱亂卵欄爛蘭鸞嵐濫藍襤拉臘蠟廊朗浪狼郎來冷勞擄櫓爐盧老蘆虜路露魯鷺碌祿綠菉錄鹿論壟弄籠聾牢"),
    (0xF947, 0xF98D, "磊賂雷壘屢樓淚漏累縷陋勒肋凜凌稜綾菱陵讀拏樂諾丹寧怒率異北磻便復不泌數索參塞省葉說殺辰沈拾若掠略亮兩凉梁糧良諒量勵呂女廬旅濾礪閭驪麗黎力曆歷轢"),
    (0xF98E, 0xF9D4, "年憐戀撚漣煉璉秊練聯輦蓮連鍊列劣咽烈裂說廉念捻殮簾獵令囹寧嶺怜玲瑩羚聆鈴零靈領例禮醴隸惡了僚寮尿料樂燎療蓼遼龍暈阮劉杻柳流溜琉留硫紐類六戮陸倫"),
    (0xF9D5, 0xFA0D, "崙淪輪律慄栗率隆利吏履易李梨泥理痢罹裏裡里離匿溺吝燐璘藺隣鱗麟林淋臨立笠粒狀炙識什茶刺切度拓糖宅洞暴輻行降見廓兀嗀"),
    (0xFA10, 0xFA10, "塚"), (0xFA12, 0xFA12, "晴"), (0xFA15, 0xFA1E, "凞猪益礼神祥福靖精羽"),
    (0xFA20, 0xFA20, "蘒"), (0xFA22, 0xFA22, "諸"), (0xFA25, 0xFA26, "逸都"),
    (0xFA2A, 0xFA6D, "飯飼館鶴郞隷侮僧免勉勤卑喝嘆器塀墨層屮悔慨憎懲敏既暑梅海渚漢煮爫琢碑社祉祈祐祖祝禍禎穀突節練縉繁署者臭艹艹著褐視謁謹賓贈辶逸難響頻恵𤋮舘"),
    (0xFA70, 0xFAB6, "並况全侀充冀勇勺喝啕喙嗢塚墳奄奔婢嬨廒廙彩徭惘慎愈憎慠懲戴揄搜摒敖晴朗望杖歹殺流滛滋漢瀞煮瞧爵犯猪瑱甆画瘝瘟益盛直睊着磌窱節类絛練缾者荒華蝹襁"),
    (0xFAB7, 0xFAD9, "覆視調諸請謁諾諭謹變贈輸遲醙鉶陼難靖韛響頋頻鬒龜𢡊𢡄𣏕㮝䀘䀹𥉉𥳐𧻓齃龎"),
    (0xFB20, 0xFB29, "\u05E2\u05D0\u05D3\u05D4\u05DB\u05DC\u05DD\u05E8\u05EA+"),
    (0xFB50, 0xFB5A, "\u0671\u0671\u067B\u067B\u067B\u067B\u067E\u067E\u067E\u067E\u0680"),
    (0xFB5B, 0xFB65, "\u0680\u0680\u0680\u067A\u067A\u067A\u067A\u067F\u067F\u067F\u067F"),
    (0xFB66, 0xFB70, "\u0679\u0679\u0679\u0679\u06A4\u06A4\u06A4\u06A4\u06A6\u06A6\u06A6"),
    (0xFB71, 0xFB7B, "\u06A6\u0684\u0684\u0684\u0684\u0683\u0683\u0683\u0683\u0686\u0686"),
    (0xFB7C, 0xFB86, "\u0686\u0686\u0687\u0687\u0687\u0687\u068D\u068D\u068C\u068C\u068E"),
    (0xFB87, 0xFB91, "\u068E\u0688\u0688\u0698\u0698\u0691\u0691\u06A9\u06A9\u06A9\u06A9"),
    (0xFB92, 0xFB9C, "\u06AF\u06AF\u06AF\u06AF\u06B3\u06B3\u06B3\u06B3\u06B1\u06B1\u06B1"),
    (0xFB9D, 0xFBA7, "\u06B1\u06BA\u06BA\u06BB\u06BB\u06BB\u06BB\u06C0\u06C0\u06C1\u06C1"),
    (0xFBA8, 0xFBB1, "\u06C1\u06C1\u06BE\u06BE\u06BE\u06BE\u06D2\u06D2\u06D3\u06D3"),
    (0xFBD3, 0xFBDC, "\u06AD\u06AD\u06AD\u06AD\u06C7\u06C7\u06C6\u06C6\u06C8\u06C8"),
    (0xFBDE, 0xFBE8, "\u06CB\u06CB\u06C5\u06C5\u06C9\u06C9\u06D0\u06D0\u06D0\u06D0\u0649"),
    (0xFBE9, 0xFBE9, "\u0649"), (0xFBFC, 0xFBFF, "\u06CC\u06CC\u06CC\u06CC"),
    (0xFE10, 0xFE11, ",、"), (0xFE13, 0xFE18, ":;!?〖〗"), (0xFE31, 0xFE40, "—–__()\x7b\x7d〔〕【】《》〈〉"),
    (0xFE47, 0xFE48, "[]"), (0xFE4D, 0xFE51, "___,、"),
    (0xFE54, 0xFE66, ";:?!—()\x7b\x7d〔〕#&*+-<>="), (0xFE68, 0xFE6B, "\\$%@"),
    (0xFE80, 0xFE8A, "\u0621\u0622\u0622\u0623\u0623\u0624\u0624\u0625\u0625\u0626\u0626"),
    (0xFE8B, 0xFE95, "\u0626\u0626\u0627\u0627\u0628\u0628\u0628\u0628\u0629\u0629\u062A"),
    (0xFE96, 0xFEA0, "\u062A\u062A\u062A\u062B\u062B\u062B\u062B\u062C\u062C\u062C\u062C"),
    (0xFEA1, 0xFEAB, "\u062D\u062D\u062D\u062D\u062E\u062E\u062E\u062E\u062F\u062F\u0630"),
    (0xFEAC, 0xFEB6, "\u0630\u0631\u0631\u0632\u0632\u0633\u0633\u0633\u0633\u0634\u0634"),
    (0xFEB7, 0xFEC1, "\u0634\u0634\u0635\u0635\u0635\u0635\u0636\u0636\u0636\u0636\u0637"),
    (0xFEC2, 0xFECC, "\u0637\u0637\u0637\u0638\u0638\u0638\u0638\u0639\u0639\u0639\u0639"),
    (0xFECD, 0xFED7, "\u063A\u063A\u063A\u063A\u0641\u0641\u0641\u0641\u0642\u0642\u0642"),
    (0xFED8, 0xFEE2, "\u0642\u0643\u0643\u0643\u0643\u0644\u0644\u0644\u0644\u0645\u0645"),
    (0xFEE3, 0xFEED, "\u0645\u0645\u0646\u0646\u0646\u0646\u0647\u0647\u0647\u0647\u0648"),
    (0xFEEE, 0xFEF4, "\u0648\u0649\u0649\u064A\u064A\u064A\u064A"),
    (0xFF5F, 0xFF84, "⦅⦆.「」、・ヲァィゥェォャュョッーアイウエオカキクケコサシスセソタチツテト"), (0xFF8B, 0xFF8E, "ヒフヘホ"),
    (0xFF94, 0xFF95, "ヤユ"), (0xFF9C, 0xFF9F, "ワン\u3099\u309A"), (0xFFA1, 0xFFA9, "ᄀᄁᆪᄂᆬᆭᄃᄄᄅ"),
    (0xFFB0, 0xFFB4, "ᄚᄆᄇᄈᄡ"), (0xFFDA, 0xFFDC, "ᅳᅴᅵ"), (0xFFE0, 0xFFE2, "¢£¬"),
    (0xFFE4, 0xFFE6, "¦¥₩"), (0xFFE8, 0xFFE8, "│"), (0xFFED, 0xFFEE, "■○"),
    (0x1058D, 0x1058D, "𐖴"), (0x1058F, 0x1058F, "𐖶"), (0x10591, 0x10591, "𐖸"),
    (0x10595, 0x10595, "𐖼"), (0x10781, 0x10785, "ːˑæʙɓ"),
    (0x10787, 0x107B0, "ʣꭦʥʤɖɗᶑɘɞʩɤɢɠʛħʜɧʄʪʫɬ𝼄ꞎɮ𝼅ʎ𝼆øɶɷqɺ𝼈ɽɾʀʨʦꭧʧʈⱱ"),
    (0x107B2, 0x107BA, "ʏʡʢʘǀǁǂ𝼊𝼞"), (0x1D44F, 0x1D44F, "b"), (0x1D451, 0x1D451, "d"),
    (0x1D453, 0x1D453, "f"), (0x1D49C, 0x1D49C, "a"), (0x1D49E, 0x1D49F, "cd"),
    (0x1D4A2, 0x1D4A2, "g"), (0x1D4A5, 0x1D4A6, "jk"), (0x1D4BE, 0x1D4BE, "i"),
    (0x1D4C0, 0x1D4C0, "k"), (0x1D4C2, 0x1D4C2, "m"), (0x1D504, 0x1D505, "ab"),
    (0x1D538, 0x1D539, "ab"), (0x1D546, 0x1D546, "o"), (0x1D6A4, 0x1D6A5, "ıȷ"),
    (0x1D6B9, 0x1D6B9, "θ"), (0x1D6C1, 0x1D6C1, "∇"), (0x1D6D3, 0x1D6D3, "σ"),
    (0x1D6DB, 0x1D6E1, "∂εθκφρπ"), (0x1D6F3, 0x1D6F3, "θ"), (0x1D6FB, 0x1D6FB, "∇"),
    (0x1D70D, 0x1D70D, "σ"), (0x1D715, 0x1D71B, "∂εθκφρπ"), (0x1D72D, 0x1D72D, "θ"),
    (0x1D735, 0x1D735, "∇"), (0x1D747, 0x1D747, "σ"), (0x1D74F, 0x1D755, "∂εθκφρπ"),
    (0x1D767, 0x1D767, "θ"), (0x1D76F, 0x1D76F, "∇"), (0x1D781, 0x1D781, "σ"),
    (0x1D789, 0x1D78F, "∂εθκφρπ"), (0x1D7A1, 0x1D7A1, "θ"), (0x1D7A9, 0x1D7A9, "∇"),
    (0x1D7BB, 0x1D7BB, "σ"), (0x1D7C3, 0x1D7CB, "∂εθκφρπϝϝ"), (0x1E039, 0x1E03B, "клм"),
    (0x1E047, 0x1E050, "ыэюꚉәіјөүӏ"), (0x1E05A, 0x1E05E, "клопс"), (0x1E065, 0x1E06D, "ъыґіѕџҫꙑұ"),
    (0x1EE00, 0x1EE03, "\u0627\u0628\u062C\u062F"),
    (0x1EE05, 0x1EE09, "\u0648\u0632\u062D\u0637\u064A"),
    (0x1EE0E, 0x1EE18, "\u0633\u0639\u0641\u0635\u0642\u0631\u0634\u062A\u062B\u062E\u0630"),
    (0x1EE19, 0x1EE1F, "\u0636\u0638\u063A\u066E\u06BA\u06A1\u066F"),
    (0x1EE21, 0x1EE22, "\u0628\u062C"), (0x1EE24, 0x1EE24, "\u0647"), (0x1EE27, 0x1EE27, "\u062D"),
    (0x1EE29, 0x1EE29, "\u064A"), (0x1EE2E, 0x1EE32, "\u0633\u0639\u0641\u0635\u0642"),
    (0x1EE34, 0x1EE37, "\u0634\u062A\u062B\u062E"), (0x1EE39, 0x1EE39, "\u0636"),
    (0x1EE3B, 0x1EE3B, "\u063A"), (0x1EE42, 0x1EE42, "\u062C"), (0x1EE47, 0x1EE47, "\u062D"),
    (0x1EE49, 0x1EE49, "\u064A"), (0x1EE4B, 0x1EE4B, "\u0644"),
    (0x1EE4D, 0x1EE4F, "\u0646\u0633\u0639"), (0x1EE51, 0x1EE52, "\u0635\u0642"),
    (0x1EE54, 0x1EE54, "\u0634"), (0x1EE57, 0x1EE57, "\u062E"), (0x1EE59, 0x1EE59, "\u0636"),
    (0x1EE5B, 0x1EE5B, "\u063A"), (0x1EE5D, 0x1EE5D, "\u06BA"), (0x1EE5F, 0x1EE5F, "\u066F"),
    (0x1EE61, 0x1EE62, "\u0628\u062C"), (0x1EE64, 0x1EE64, "\u0647"),
    (0x1EE67, 0x1EE6A, "\u062D\u0637\u064A\u0643"),
    (0x1EE6C, 0x1EE72, "\u0645\u0646\u0633\u0639\u0641\u0635\u0642"),
    (0x1EE74, 0x1EE77, "\u0634\u062A\u062B\u062E"), (0x1EE79, 0x1EE7C, "\u0636\u0638\u063A\u066E"),
    (0x1EE7E, 0x1EE7E, "\u06A1"),
    (0x1EE80, 0x1EE89, "\u0627\u0628\u062C\u062F\u0647\u0648\u0632\u062D\u0637\u064A"),
    (0x1EE8B, 0x1EE95, "\u0644\u0645\u0646\u0633\u0639\u0641\u0635\u0642\u0631\u0634\u062A"),
    (0x1EE96, 0x1EE9B, "\u062B\u062E\u0630\u0636\u0638\u063A"),
    (0x1EEA1, 0x1EEA3, "\u0628\u062C\u062F"), (0x1EEA5, 0x1EEA9, "\u0648\u0632\u062D\u0637\u064A"),
    (0x1EEAB, 0x1EEB5, "\u0644\u0645\u0646\u0633\u0639\u0641\u0635\u0642\u0631\u0634\u062A"),
    (0x1EEB6, 0x1EEBB, "\u062B\u062E\u0630\u0636\u0638\u063A"), (0x1F12B, 0x1F12C, "cr"),
    (0x1F202, 0x1F202, "サ"), (0x1F210, 0x1F23B, "手字双デ二多解天交映無料前後再新初終生販声吹演投捕一三遊左中右指走打禁空合満有月申割営配"),
    (0x1F250, 0x1F251, "得可"),
    (0x2F800, 0x2F844, "丽丸乁𠄢你侮侻倂偺備僧像㒞𠘺免兔兤具𠔜㒹內再𠕋冗冤仌冬况𩇟凵刃㓟刻剆割剷㔕勇勉勤勺包匆北卉卑博即卽卿卿卿𠨬灰及叟𠭣叫叱吆咞吸呈周咢哶唐啓啣"),
    (0x2F845, 0x2F889, "善善喙喫喳嗂圖嘆圗噑噴切壮城埴堍型堲報墬𡓤売壷夆多夢奢𡚨𡛪姬娛娧姘婦㛮㛼嬈嬾嬾𡧈寃寘寧寳𡬘寿将当尢㞁屠屮峀岍𡷤嵃𡷦嵮嵫嵼巡巢㠯巽帨帽幩㡢𢆃"),
    (0x2F88A, 0x2F8CE, "㡼庰庳庶廊𪎒廾𢌱𢌱舁弢弢㣇𣊸𦇚形彫㣣徚忍志忹悁㤺㤜悔𢛔惇慈慌慎慌慺憎憲憤憯懞懲懶成戛扝抱拔捐𢬌挽拼捨掃揤𢯱搢揅掩㨮摩摾撝摷㩬敏敬𣀊旣書晉㬙"),
    (0x2F8CF, 0x2F913, "暑㬈㫤冒冕最暜肭䏙朗望朡杞杓𣏃㭉柺枅桒梅𣑭梎栟椔㮝楂榣槪檨𣚣櫛㰘次𣢧歔㱎歲殟殺殻𣪍𡴋𣫺汎𣲼沿泍汧洖派海流浩浸涅𣴞洴港湮㴳滋滇𣻑淹潮𣽞𣾎濆瀹"),
    (0x2F914, 0x2F958, "瀞瀛㶖灊災灷炭𠔥煅𤉣熜𤎫爨爵牐𤘈犀犕𤜵𤠔獺王㺬玥㺸㺸瑇瑜瑱璅瓊㼛甤𤰶甾𤲒異𢆟瘐𤾡𤾸𥁄㿼䀈直𥃳𥃲𥄙𥄳眞真真睊䀹瞋䁆䂖𥐝硎碌磌䃣𥘦祖𥚚𥛅福秫䄯"),
    (0x2F959, 0x2F99D, "穀穊穏𥥼𥪧𥪧竮䈂𥮫篆築䈧𥲀糒䊠糨糣紀𥾆絣䌁緇縂繅䌴𦈨𦉇䍙𦋙罺𦌾羕翺者𦓚𦔣聠𦖨聰𣍟䏕育脃䐋脾媵𦞧𦞵𣎓𣎜舁舄辞䑫芑芋芝劳花芳芽苦𦬼若茝荣莭茣莽"),
    (0x2F99E, 0x2F9E2, "菧著荓菊菌菜𦰶𦵫𦳕䔫蓱蓳蔖𧏊蕤𦼬䕝䕡𦾱𧃒䕫虐虜虧虩蚩蚈蜎蛢蝹蜨蝫螆䗗蟡蠁䗹衠衣𧙧裗裞䘵裺㒻𧢮𧥦䚾䛇誠諭變豕𧲨貫賁贛起𧼯𠠄跋趼跰𠣞軔輸𨗒𨗭邔"),
    (0x2F9E3, 0x2FA1D, "郱鄑𨜮鄛鈸鋗鋘鉼鏹鐕𨯺開䦕閷𨵷䧦雃嶲霣𩅅𩈚䩮䩶韠𩐊䪲𩒖頋頋頩𩖶飢䬳餩馧駂駾䯎𩬰鬒鱀鳽䳎䳭鵧𪃎䳸𪄅𪈎𪊑麻䵖黹黾鼅鼏鼖鼻𪘀")]

/-- Code points from the first to the second, each with a word that it stands for. -/
def wordImages : List (Nat × Nat × String) :=
  [(0xBC, 0xBE, "1⁄4 1⁄2 3⁄4"), (0x130, 0x130, "i\u0307"), (0x132, 0x133, "ij ij"),
    (0x13F, 0x140, "l· l·"), (0x149, 0x149, "ʼn"), (0x1C4, 0x1CC, "dž dž dž lj lj lj nj nj nj"),
    (0x1F1, 0x1F3, "dz dz dz"), (0x344, 0x344, "\u0308\u0301"), (0x587, 0x587, "եւ"),
    (0x675, 0x678, "\u0627\u0674 \u0648\u0674 \u06C7\u0674 \u064A\u0674"),
    (0x958, 0x95F, "क\u093C ख\u093C ग\u093C ज\u093C ड\u093C ढ\u093C फ\u093C य\u093C"),
    (0x9DC, 0x9DD, "ড\u09BC ঢ\u09BC"), (0x9DF, 0x9DF, "য\u09BC"), (0xA33, 0xA33, "ਲ\u0A3C"),
    (0xA36, 0xA36, "ਸ\u0A3C"), (0xA59, 0xA5B, "ਖ\u0A3C ਗ\u0A3C ਜ\u0A3C"),
    (0xA5E, 0xA5E, "ਫ\u0A3C"), (0xB5C, 0xB5D, "ଡ\u0B3C ଢ\u0B3C"), (0xE33, 0xE33, "\u0E4Dา"),
    (0xEB3, 0xEB3, "\u0ECDາ"), (0xEDC, 0xEDD, "ຫນ ຫມ"), (0xF43, 0xF43, "ག\u0FB7"),
    (0xF4D, 0xF4D, "ཌ\u0FB7"), (0xF52, 0xF52, "ད\u0FB7"), (0xF57, 0xF57, "བ\u0FB7"),
    (0xF5C, 0xF5C, "ཛ\u0FB7"), (0xF69, 0xF69, "ཀ\u0FB5"), (0xF73, 0xF73, "\u0F71\u0F72"),
    (0xF75, 0xF78, "\u0F71\u0F74 \u0FB2\u0F80 \u0FB2\u0F71\u0F80 \u0FB3\u0F80"),
    (0xF79, 0xF79, "\u0FB3\u0F71\u0F80"), (0xF81, 0xF81, "\u0F71\u0F80"),
    (0xF93, 0xF93, "\u0F92\u0FB7"), (0xF9D, 0xF9D, "\u0F9C\u0FB7"), (0xFA2, 0xFA2, "\u0FA1\u0FB7"),
    (0xFA7, 0xFA7, "\u0FA6\u0FB7"), (0xFAC, 0xFAC, "\u0FAB\u0FB7"), (0xFB9, 0xFB9, "\u0F90\u0FB5"),
    (0x1E9A, 0x1E9A, "aʾ"),
    (0x1F80, 0x1F97, "ἀι ἁι ἂι ἃι ἄι ἅι ἆι ἇι ἀι ἁι ἂι ἃι ἄι ἅι ἆι ἇι ἠι ἡι ἢι ἣι ἤι ἥι ἦι ἧι"),
    (0x1F98, 0x1FAF, "ἠι ἡι ἢι ἣι ἤι ἥι ἦι ἧι ὠι ὡι ὢι ὣι ὤι ὥι ὦι ὧι ὠι ὡι ὢι ὣι ὤι ὥι ὦι ὧι"),
    (0x1FB2, 0x1FB4, "ὰι αι άι"), (0x1FB7, 0x1FB7, "ᾶι"), (0x1FBC, 0x1FBC, "αι"),
    (0x1FC2, 0x1FC4, "ὴι ηι ήι"), (0x1FC7, 0x1FC7, "ῆι"), (0x1FCC, 0x1FCC, "ηι"),
    (0x1FF2, 0x1FF4, "ὼι ωι ώι"), (0x1FF7, 0x1FF7, "ῶι"), (0x1FFC, 0x1FFC, "ωι"),
    (0x2033, 0x2034, "′′ ′′′"), (0x2036, 0x2037, "‵‵ ‵‵‵"), (0x203C, 0x203C, "!!"),
    (0x2047, 0x2049, "?? ?! !?"), (0x2057, 0x2057, "′′′′"), (0x20A8, 0x20A8, "rs"),
    (0x2100, 0x2101, "a/c a/s"), (0x2103, 0x2103, "°c"), (0x2105, 0x2106, "c/o c/u"),
    (0x2109, 0x2109, "°f"), (0x2116, 0x2116, "no"), (0x2120, 0x2122, "sm tel tm"),
    (0x213B, 0x213B, "fax"),
    (0x2150, 0x215F, "1⁄7 1⁄9 1⁄10 1⁄3 2⁄3 1⁄5 2⁄5 3⁄5 4⁄5 1⁄6 5⁄6 1⁄8 3⁄8 5⁄8 7⁄8 1⁄"),
    (0x2161, 0x2163, "ii iii iv"), (0x2165, 0x2168, "vi vii viii ix"), (0x216A, 0x216B, "xi xii"),
    (0x2171, 0x2173, "ii iii iv"), (0x2175, 0x2178, "vi vii viii ix"), (0x217A, 0x217B, "xi xii"),
    (0x2189, 0x2189, "0⁄3"), (0x222C, 0x222D, "∫∫ ∫∫∫"), (0x222F, 0x2230, "∮∮ ∮∮∮"),
    (0x2469, 0x247C, "10 11 12 13 14 15 16 17 18 19 20 (1) (2) (3) (4) (5) (6) (7) (8) (9)"),
    (0x247D, 0x2487, "(10) (11) (12) (13) (14) (15) (16) (17) (18) (19) (20)"),
    (0x249C, 0x24AD, "(a) (b) (c) (d) (e) (f) (g) (h) (i) (j) (k) (l) (m) (n) (o) (p) (q) (r)"),
    (0x24AE, 0x24B5, "(s) (t) (u) (v) (w) (x) (y) (z)"), (0x2A0C, 0x2A0C, "∫∫∫∫"),
    (0x2A74, 0x2A76, "::= == ==="), (0x2ADC, 0x2ADC, "⫝\u0338"), (0x309F, 0x309F, "より"),
    (0x30FF, 0x30FF, "コト"),
    (0x3200, 0x3211, "(ᄀ) (ᄂ) (ᄃ) (ᄅ) (ᄆ) (ᄇ) (ᄉ) (ᄋ) (ᄌ) (ᄎ) (ᄏ) (ᄐ) (ᄑ) (ᄒ) (가) (나) (다) (라)"),
    (0x3212, 0x321E, "(마) (바) (사) (아) (자) (차) (카) (타) (파) (하) (주) (오전) (오후)"),
    (0x3220, 0x3231, "(一) (二) (三) (四) (五) (六) (七) (八) (九) (十) (月) (火) (水) (木) (金) (土) (日) (株)"),
    (0x3232, 0x3243, "(有) (社) (名) (特) (財) (祝) (労) (代) (呼) (学) (監) (企) (資) (協) (祭) (休) (自) (至)"),
    (0x3250, 0x325F, "pte 21 22 23 24 25 26 27 28 29 30 31 32 33 34 35"),
    (0x327C, 0x327D, "참고 주의"),
    (0x32B1, 0x32C8, "36 37 38 39 40 41 42 43 44 45 46 47 48 49 50 1月 2月 3月 4月 5月 6月 7月 8月 9月"),
    (0x32C9, 0x32CF, "10月 11月 12月 hg erg ev ltd"),
    (0x32FF, 0x330E, "令和 アパート アルファ アンペア アール イニング インチ ウォン エスクード エーカー オンス オーム カイリ カラット カロリー ガロン"),
    (0x330F, 0x331D, "ガンマ ギガ ギニー キュリー ギルダー キロ キログラム キロメートル キロワット グラム グラムトン クルゼイロ クローネ ケース コルナ"),
    (0x331E, 0x332D, "コーポ サイクル サンチーム シリング センチ セント ダース デシ ドル トン ナノ ノット ハイツ パーセント パーツ バーレル"),
    (0x332E, 0x333D, "ピアストル ピクル ピコ ビル ファラッド フィート ブッシェル フラン ヘクタール ペソ ペニヒ ヘルツ ペンス ページ ベータ ポイント"),
    (0x333E, 0x334D, "ボルト ホン ポンド ホール ホーン マイクロ マイル マッハ マルク マンション ミクロン ミリ ミリバール メガ メガトン メートル"),
    (0x334E, 0x3361, "ヤード ヤール ユアン リットル リラ ルピー ルーブル レム レントゲン ワット 0点 1点 2点 3点 4点 5点 6点 7点 8点 9点"),
    (0x3362, 0x3373, "10点 11点 12点 13点 14点 15点 16点 17点 18点 19点 20点 21点 22点 23点 24点 hpa da au"),
    (0x3374, 0x3388, "bar ov pc dm dm2 dm3 iu 平成 昭和 大正 明治 株式会社 pa na μa ma ka kb mb gb cal"),
    (0x3389, 0x339E, "kcal pf nf μf μg mg kg hz khz mhz ghz thz μl ml dl kl fm nm μm mm cm km"),
    (0x339F, 0x33AF, "mm2 cm2 m2 km2 mm3 cm3 m3 km3 m∕s m∕s2 pa kpa mpa gpa rad rad∕s rad∕s2"),
    (0x33B0, 0x33C1, "ps ns μs ms pv nv μv mv kv mv pw nw μw mw kw mw kω mω"),
    (0x33C3, 0x33C6, "bq cc cd c∕kg"),
    (0x33C8, 0x33D7, "db gy ha hp in kk km kt lm ln log lx mb mil mol ph"),
    (0x33D9, 0x33ED, "ppm pr sr sv wb v∕m a∕m 1日 2日 3日 4日 5日 6日 7日 8日 9日 10日 11日 12日 13日 14日"),
    (0x33EE, 0x33FF, "15日 16日 17日 18日 19日 20日 21日 22日 23日 24日 25日 26日 27日 28日 29日 30日 31日 gal"),
    (0xFB00, 0xFB06, "ff fi fl ffi ffl st st"), (0xFB13, 0xFB17, "մն մե մի վն մխ"),
    (0xFB1D, 0xFB1D, "\u05D9\u05B4"), (0xFB1F, 0xFB1F, "\u05F2\u05B7"),
    (0xFB2A, 0xFB2D, "\u05E9\u05C1 \u05E9\u05C2 \u05E9\u05BC\u05C1 \u05E9\u05BC\u05C2"),
    (0xFB2E, 0xFB32, "\u05D0\u05B7 \u05D0\u05B8 \u05D0\u05BC \u05D1\u05BC \u05D2\u05BC"),
    (0xFB33, 0xFB36, "\u05D3\u05BC \u05D4\u05BC \u05D5\u05BC \u05D6\u05BC"),
    (0xFB38, 0xFB3C, "\u05D8\u05BC \u05D9\u05BC \u05DA\u05BC \u05DB\u05BC \u05DC\u05BC"),
    (0xFB3E, 0xFB3E, "\u05DE\u05BC"), (0xFB40, 0xFB41, "\u05E0\u05BC \u05E1\u05BC"),
    (0xFB43, 0xFB44, "\u05E3\u05BC \u05E4\u05BC"),
    (0xFB46, 0xFB4A, "\u05E6\u05BC \u05E7\u05BC \u05E8\u05BC \u05E9\u05BC \u05EA\u05BC"),
    (0xFB4B, 0xFB4F, "\u05D5\u05B9 \u05D1\u05BF \u05DB\u05BF \u05E4\u05BF \u05D0\u05DC"),
    (0xFBDD, 0xFBDD, "\u06C7\u0674"),
    (0xFBEA, 0xFBEE, "\u0626\u0627 \u0626\u0627 \u0626\u06D5 \u0626\u06D5 \u0626\u0648"),
    (0xFBEF, 0xFBF3, "\u0626\u0648 \u0626\u06C7 \u0626\u06C7 \u0626\u06C6 \u0626\u06C6"),
    (0xFBF4, 0xFBF8, "\u0626\u06C8 \u0626\u06C8 \u0626\u06D0 \u0626\u06D0 \u0626\u06D0"),
    (0xFBF9, 0xFBFB, "\u0626\u0649 \u0626\u0649 \u0626\u0649"),
    (0xFC00, 0xFC04, "\u0626\u062C \u0626\u062D \u0626\u0645 \u0626\u0649 \u0626\u064A"),
    (0xFC05, 0xFC09, "\u0628\u062C \u0628\u062D \u0628\u062E \u0628\u0645 \u0628\u0649"),
    (0xFC0A, 0xFC0E, "\u0628\u064A \u062A\u062C \u062A\u062D \u062A\u062E \u062A\u0645"),
    (0xFC0F, 0xFC13, "\u062A\u0649 \u062A\u064A \u062B\u062C \u062B\u0645 \u062B\u0649"),
    (0xFC14, 0xFC18, "\u062B\u064A \u062C\u062D \u062C\u0645 \u062D\u062C \u062D\u0645"),
    (0xFC19, 0xFC1D, "\u062E\u062C \u062E\u062D \u062E\u0645 \u0633\u062C \u0633\u062D"),
    (0xFC1E, 0xFC22, "\u0633\u062E \u0633\u0645 \u0635\u062D \u0635\u0645 \u0636\u062C"),
    (0xFC23, 0xFC27, "\u0636\u062D \u0636\u062E \u0636\u0645 \u0637\u062D \u0637\u0645"),
    (0xFC28, 0xFC2C, "\u0638\u0645 \u0639\u062C \u0639\u0645 \u063A\u062C \u063A\u0645"),
    (0xFC2D, 0xFC31, "\u0641\u062C \u0641\u062D \u0641\u062E \u0641\u0645 \u0641\u0649"),
    (0xFC32, 0xFC36, "\u0641\u064A \u0642\u062D \u0642\u0645 \u0642\u0649 \u0642\u064A"),
    (0xFC37, 0xFC3B, "\u0643\u0627 \u0643\u062C \u0643\u062D \u0643\u062E \u0643\u0644"),
    (0xFC3C, 0xFC40, "\u0643\u0645 \u0643\u0649 \u0643\u064A \u0644\u062C \u0644\u062D"),
    (0xFC41, 0xFC45, "\u0644\u062E \u0644\u0645 \u0644\u0649 \u0644\u064A \u0645\u062C"),
    (0xFC46, 0xFC4A, "\u0645\u062D \u0645\u062E \u0645\u0645 \u0645\u0649 \u0645\u064A"),
    (0xFC4B, 0xFC4F, "\u0646\u062C \u0646\u062D \u0646\u062E \u0646\u0645 \u0646\u0649"),
    (0xFC50, 0xFC54, "\u0646\u064A \u0647\u062C \u0647\u0645 \u0647\u0649 \u0647\u064A"),
    (0xFC55, 0xFC59, "\u064A\u062C \u064A\u062D \u064A\u062E \u064A\u0645 \u064A\u0649"),
    (0xFC5A, 0xFC5D, "\u064A\u064A \u0630\u0670 \u0631\u0670 \u0649\u0670"),
    (0xFC64, 0xFC68, "\u0626\u0631 \u0626\u0632 \u0626\u0645 \u0626\u0646 \u0626\u0649"),
    (0xFC69, 0xFC6D, "\u0626\u064A \u0628\u0631 \u0628\u0632 \u0628\u0645 \u0628\u0646"),
    (0xFC6E, 0xFC72, "\u0628\u0649 \u0628\u064A \u062A\u0631 \u062A\u0632 \u062A\u0645"),
    (0xFC73, 0xFC77, "\u062A\u0646 \u062A\u0649 \u062A\u064A \u062B\u0631 \u062B\u0632"),
    (0xFC78, 0xFC7C, "\u062B\u0645 \u062B\u0646 \u062B\u0649 \u062B\u064A \u0641\u0649"),
    (0xFC7D, 0xFC81, "\u0641\u064A \u0642\u0649 \u0642\u064A \u0643\u0627 \u0643\u0644"),
    (0xFC82, 0xFC86, "\u0643\u0645 \u0643\u0649 \u0643\u064A \u0644\u0645 \u0644\u0649"),
    (0xFC87, 0xFC8B, "\u0644\u064A \u0645\u0627 \u0645\u0645 \u0646\u0631 \u0646\u0632"),
    (0xFC8C, 0xFC90, "\u0646\u0645 \u0646\u0646 \u0646\u0649 \u0646\u064A \u0649\u0670"),
    (0xFC91, 0xFC95, "\u064A\u0631 \u064A\u0632 \u064A\u0645 \u064A\u0646 \u064A\u0649"),
    (0xFC96, 0xFC9A, "\u064A\u064A \u0626\u062C \u0626\u062D \u0626\u062E \u0626\u0645"),
    (0xFC9B, 0xFC9F, "\u0626\u0647 \u0628\u062C \u0628\u062D \u0628\u062E \u0628\u0645"),
    (0xFCA0, 0xFCA4, "\u0628\u0647 \u062A\u062C \u062A\u062D \u062A\u062E \u062A\u0645"),
    (0xFCA5, 0xFCA9, "\u062A\u0647 \u062B\u0645 \u062C\u062D \u062C\u0645 \u062D\u062C"),
    (0xFCAA, 0xFCAE, "\u062D\u0645 \u062E\u062C \u062E\u0645 \u0633\u062C \u0633\u062D"),
    (0xFCAF, 0xFCB3, "\u0633\u062E \u0633\u0645 \u0635\u062D \u0635\u062E \u0635\u0645"),
    (0xFCB4, 0xFCB8, "\u0636\u062C \u0636\u062D \u0636\u062E \u0636\u0645 \u0637\u062D"),
    (0xFCB9, 0xFCBD, "\u0638\u0645 \u0639\u062C \u0639\u0645 \u063A\u062C \u063A\u0645"),
    (0xFCBE, 0xFCC2, "\u0641\u062C \u0641\u062D \u0641\u062E \u0641\u0645 \u0642\u062D"),
    (0xFCC3, 0xFCC7, "\u0642\u0645 \u0643\u062C \u0643\u062D \u0643\u062E \u0643\u0644"),
    (0xFCC8, 0xFCCC, "\u0643\u0645 \u0644\u062C \u0644\u062D \u0644\u062E \u0644\u0645"),
    (0xFCCD, 0xFCD1, "\u0644\u0647 \u0645\u062C \u0645\u062D \u0645\u062E \u0645\u0645"),
    (0xFCD2, 0xFCD6, "\u0646\u062C \u0646\u062D \u0646\u062E \u0646\u0645 \u0646\u0647"),
    (0xFCD7, 0xFCDB, "\u0647\u062C \u0647\u0645 \u0647\u0670 \u064A\u062C \u064A\u062D"),
    (0xFCDC, 0xFCE0, "\u064A\u062E \u064A\u0645 \u064A\u0647 \u0626\u0645 \u0626\u0647"),
    (0xFCE1, 0xFCE5, "\u0628\u0645 \u0628\u0647 \u062A\u0645 \u062A\u0647 \u062B\u0645"),
    (0xFCE6, 0xFCEA, "\u062B\u0647 \u0633\u0645 \u0633\u0647 \u0634\u0645 \u0634\u0647"),
    (0xFCEB, 0xFCEF, "\u0643\u0644 \u0643\u0645 \u0644\u0645 \u0646\u0645 \u0646\u0647"),
    (0xFCF0, 0xFCF3, "\u064A\u0645 \u064A\u0647 \u0640\u064E\u0651 \u0640\u064F\u0651"),
    (0xFCF4, 0xFCF8, "\u0640\u0650\u0651 \u0637\u0649 \u0637\u064A \u0639\u0649 \u0639\u064A"),
    (0xFCF9, 0xFCFD, "\u063A\u0649 \u063A\u064A \u0633\u0649 \u0633\u064A \u0634\u0649"),
    (0xFCFE, 0xFD02, "\u0634\u064A \u062D\u0649 \u062D\u064A \u062C\u0649 \u062C\u064A"),
    (0xFD03, 0xFD07, "\u062E\u0649 \u062E\u064A \u0635\u0649 \u0635\u064A \u0636\u0649"),
    (0xFD08, 0xFD0C, "\u0636\u064A \u0634\u062C \u0634\u062D \u0634\u062E \u0634\u0645"),
    (0xFD0D, 0xFD11, "\u0634\u0631 \u0633\u0631 \u0635\u0631 \u0636\u0631 \u0637\u0649"),
    (0xFD12, 0xFD16, "\u0637\u064A \u0639\u0649 \u0639\u064A \u063A\u0649 \u063A\u064A"),
    (0xFD17, 0xFD1B, "\u0633\u0649 \u0633\u064A \u0634\u0649 \u0634\u064A \u062D\u0649"),
    (0xFD1C, 0xFD20, "\u062D\u064A \u062C\u0649 \u062C\u064A \u062E\u0649 \u062E\u064A"),
    (0xFD21, 0xFD25, "\u0635\u0649 \u0635\u064A \u0636\u0649 \u0636\u064A \u0634\u062C"),
    (0xFD26, 0xFD2A, "\u0634\u062D \u0634\u062E \u0634\u0645 \u0634\u0631 \u0633\u0631"),
    (0xFD2B, 0xFD2F, "\u0635\u0631 \u0636\u0631 \u0634\u062C \u0634\u062D \u0634\u062E"),
    (0xFD30, 0xFD34, "\u0634\u0645 \u0633\u0647 \u0634\u0647 \u0637\u0645 \u0633\u062C"),
    (0xFD35, 0xFD39, "\u0633\u062D \u0633\u062E \u0634\u062C \u0634\u062D \u0634\u062E"),
    (0xFD3A, 0xFD3D, "\u0637\u0645 \u0638\u0645 \u0627\u064B \u0627\u064B"),
    (0xFD50, 0xFD52, "\u062A\u062C\u0645 \u062A\u062D\u062C \u062A\u062D\u062C"),
    (0xFD53, 0xFD55, "\u062A\u062D\u0645 \u062A\u062E\u0645 \u062A\u0645\u062C"),
    (0xFD56, 0xFD58, "\u062A\u0645\u062D \u062A\u0645\u062E \u062C\u0645\u062D"),
    (0xFD59, 0xFD5B, "\u062C\u0645\u062D \u062D\u0645\u064A \u062D\u0645\u0649"),
    (0xFD5C, 0xFD5E, "\u0633\u062D\u062C \u0633\u062C\u062D \u0633\u062C\u0649"),
    (0xFD5F, 0xFD61, "\u0633\u0645\u062D \u0633\u0645\u062D \u0633\u0645\u062C"),
    (0xFD62, 0xFD64, "\u0633\u0645\u0645 \u0633\u0645\u0645 \u0635\u062D\u062D"),
    (0xFD65, 0xFD67, "\u0635\u062D\u062D \u0635\u0645\u0645 \u0634\u062D\u0645"),
    (0xFD68, 0xFD6A, "\u0634\u062D\u0645 \u0634\u062C\u064A \u0634\u0645\u062E"),
    (0xFD6B, 0xFD6D, "\u0634\u0645\u062E \u0634\u0645\u0645 \u0634\u0645\u0645"),
    (0xFD6E, 0xFD70, "\u0636\u062D\u0649 \u0636\u062E\u0645 \u0636\u062E\u0645"),
    (0xFD71, 0xFD73, "\u0637\u0645\u062D \u0637\u0645\u062D \u0637\u0645\u0645"),
    (0xFD74, 0xFD76, "\u0637\u0645\u064A \u0639\u062C\u0645 \u0639\u0645\u0645"),
    (0xFD77, 0xFD79, "\u0639\u0645\u0645 \u0639\u0645\u0649 \u063A\u0645\u0645"),
    (0xFD7A, 0xFD7C, "\u063A\u0645\u064A \u063A\u0645\u0649 \u0641\u062E\u0645"),
    (0xFD7D, 0xFD7F, "\u0641\u062E\u0645 \u0642\u0645\u062D \u0642\u0645\u0645"),
    (0xFD80, 0xFD82, "\u0644\u062D\u0645 \u0644\u062D\u064A \u0644\u062D\u0649"),
    (0xFD83, 0xFD85, "\u0644\u062C\u062C \u0644\u062C\u062C \u0644\u062E\u0645"),
    (0xFD86, 0xFD88, "\u0644\u062E\u0645 \u0644\u0645\u062D \u0644\u0645\u062D"),
    (0xFD89, 0xFD8B, "\u0645\u062D\u062C \u0645\u062D\u0645 \u0645\u062D\u064A"),
    (0xFD8C, 0xFD8E, "\u0645\u062C\u062D \u0645\u062C\u0645 \u0645\u062E\u062C"),
    (0xFD8F, 0xFD8F, "\u0645\u062E\u0645"),
    (0xFD92, 0xFD94, "\u0645\u062C\u062E \u0647\u0645\u062C \u0647\u0645\u0645"),
    (0xFD95, 0xFD97, "\u0646\u062D\u0645 \u0646\u062D\u0649 \u0646\u062C\u0645"),
    (0xFD98, 0xFD9A, "\u0646\u062C\u0645 \u0646\u062C\u0649 \u0646\u0645\u064A"),
    (0xFD9B, 0xFD9D, "\u0646\u0645\u0649 \u064A\u0645\u0645 \u064A\u0645\u0645"),
    (0xFD9E, 0xFDA0, "\u0628\u062E\u064A \u062A\u062C\u064A \u062A\u062C\u0649"),
    (0xFDA1, 0xFDA3, "\u062A\u062E\u064A \u062A\u062E\u0649 \u062A\u0645\u064A"),
    (0xFDA4, 0xFDA6, "\u062A\u0645\u0649 \u062C\u0645\u064A \u062C\u062D\u0649"),
    (0xFDA7, 0xFDA9, "\u062C\u0645\u0649 \u0633\u062E\u0649 \u0635\u062D\u064A"),
    (0xFDAA, 0xFDAC, "\u0634\u062D\u064A \u0636\u062D\u064A \u0644\u062C\u064A"),
    (0xFDAD, 0xFDAF, "\u0644\u0645\u064A \u064A\u062D\u064A \u064A\u062C\u064A"),
    (0xFDB0, 0xFDB2, "\u064A\u0645\u064A \u0645\u0645\u064A \u0642\u0645\u064A"),
    (0xFDB3, 0xFDB5, "\u0646\u062D\u064A \u0642\u0645\u062D \u0644\u062D\u0645"),
    (0xFDB6, 0xFDB8, "\u0639\u0645\u064A \u0643\u0645\u064A \u0646\u062C\u062D"),
    (0xFDB9, 0xFDBB, "\u0645\u062E\u064A \u0644\u062C\u0645 \u0643\u0645\u0645"),
    (0xFDBC, 0xFDBE, "\u0644\u062C\u0645 \u0646\u062C\u062D \u062C\u062D\u064A"),
    (0xFDBF, 0xFDC1, "\u062D\u062C\u064A \u0645\u062C\u064A \u0641\u0645\u064A"),
    (0xFDC2, 0xFDC4, "\u0628\u062D\u064A \u0643\u0645\u0645 \u0639\u062C\u0645"),
    (0xFDC5, 0xFDC7, "\u0635\u0645\u0645 \u0633\u062E\u064A \u0646\u062C\u064A"),
    (0xFDF0, 0xFDF2, "\u0635\u0644\u06D2 \u0642\u0644\u06D2 \u0627\u0644\u0644\u0647"),
    (0xFDF3, 0xFDF4, "\u0627\u0643\u0628\u0631 \u0645\u062D\u0645\u062F"),
    (0xFDF5, 0xFDF6, "\u0635\u0644\u0639\u0645 \u0631\u0633\u0648\u0644"),
    (0xFDF7, 0xFDF9, "\u0639\u0644\u064A\u0647 \u0648\u0633\u0644\u0645 \u0635\u0644\u0649"),
    (0xFDFC, 0xFDFC, "\u0631\u06CC\u0627\u0644"), (0xFE71, 0xFE71, "\u0640\u064B"),
    (0xFE77, 0xFE77, "\u0640\u064E"), (0xFE79, 0xFE79, "\u0640\u064F"),
    (0xFE7B, 0xFE7B, "\u0640\u0650"), (0xFE7D, 0xFE7D, "\u0640\u0651"),
    (0xFE7F, 0xFE7F, "\u0640\u0652"),
    (0xFEF5, 0xFEF9, "\u0644\u0622 \u0644\u0622 \u0644\u0623 \u0644\u0623 \u0644\u0625"),
    (0xFEFA, 0xFEFC, "\u0644\u0625 \u0644\u0627 \u0644\u0627"),
    (0x1F101, 0x1F10A, "0, 1, 2, 3, 4, 5, 6, 7, 8, 9,"),
    (0x1F110, 0x1F120, "(a) (b) (c) (d) (e) (f) (g) (h) (i) (j) (k) (l) (m) (n) (o) (p) (q)"),
    (0x1F121, 0x1F12A, "(r) (s) (t) (u) (v) (w) (x) (y) (z) 〔s〕"), (0x1F12D, 0x1F12E, "cd wz"),
    (0x1F14A, 0x1F14F, "hv mv sd ss ppv wc"), (0x1F16A, 0x1F16C, "mc md mr"),
    (0x1F190, 0x1F190, "dj"), (0x1F200, 0x1F201, "ほか ココ"),
    (0x1F240, 0x1F248, "〔本〕 〔三〕 〔二〕 〔安〕 〔点〕 〔打〕 〔盗〕 〔勝〕 〔敗〕")]

/-- Code points that stand for several others. -/
def longImages : List (Nat × List Nat) :=
  [(0x1D15E, [0x1D157, 0x1D165]), (0x1D15F, [0x1D158, 0x1D165]),
    (0x1D160, [0x1D158, 0x1D165, 0x1D16E]), (0x1D161, [0x1D158, 0x1D165, 0x1D16F]),
    (0x1D162, [0x1D158, 0x1D165, 0x1D170]), (0x1D163, [0x1D158, 0x1D165, 0x1D171]),
    (0x1D164, [0x1D158, 0x1D165, 0x1D172]), (0x1D1BB, [0x1D1B9, 0x1D165]),
    (0x1D1BC, [0x1D1BA, 0x1D165]), (0x1D1BD, [0x1D1B9, 0x1D165, 0x1D16E]),
    (0x1D1BE, [0x1D1BA, 0x1D165, 0x1D16E]), (0x1D1BF, [0x1D1B9, 0x1D165, 0x1D16F]),
    (0x1D1C0, [0x1D1BA, 0x1D165, 0x1D16F])]

/-- Characters that a name does not show. -/
def ignoredRanges : Text.Ranges :=
  [(0xAD, 0xAD), (0x34F, 0x34F), (0x115F, 0x1160), (0x17B4, 0x17B5), (0x180B, 0x180F),
    (0x200B, 0x200B), (0x2060, 0x2064), (0x206A, 0x206F), (0x3164, 0x3164), (0xFE00, 0xFE0F),
    (0xFEFF, 0xFEFF), (0xFFA0, 0xFFA0), (0x1BCA0, 0x1BCA3), (0x1D173, 0x1D17A), (0xE0100, 0xE01EF)]

/-- Characters with a visible form that have no place in a name, or stand for what has none. -/
def unfitRanges : Text.Ranges :=
  [(0xA0, 0xA0), (0xA8, 0xA8), (0xAF, 0xAF), (0xB4, 0xB4), (0xB8, 0xB8), (0x2D8, 0x2DD),
    (0x37A, 0x37A), (0x384, 0x385), (0x1FBD, 0x1FBD), (0x1FBF, 0x1FC1), (0x1FCD, 0x1FCF),
    (0x1FDD, 0x1FDF), (0x1FED, 0x1FEE), (0x1FFD, 0x200A), (0x2017, 0x2017), (0x2024, 0x2026),
    (0x202F, 0x202F), (0x203E, 0x203E), (0x205F, 0x205F), (0x2488, 0x249B), (0x2FF0, 0x3000),
    (0x309B, 0x309C), (0x31EF, 0x31EF), (0x33C2, 0x33C2), (0x33C7, 0x33C7), (0x33D8, 0x33D8),
    (0xFC5E, 0xFC63), (0xFDFA, 0xFDFB), (0xFE12, 0xFE12), (0xFE19, 0xFE19), (0xFE30, 0xFE30),
    (0xFE49, 0xFE4C), (0xFE52, 0xFE52), (0xFE70, 0xFE70), (0xFE72, 0xFE72), (0xFE74, 0xFE76),
    (0xFE78, 0xFE78), (0xFE7A, 0xFE7A), (0xFE7C, 0xFE7C), (0xFE7E, 0xFE7E), (0xFFE3, 0xFFE3),
    (0xFFFC, 0xFFFD), (0x1F100, 0x1F100)]

def shifted? (point : Nat) : Option (List Char) :=
  shifts.findSome? fun (first, last, step, distance) =>
    if first ≤ point && point ≤ last && (point - first) % step = 0 then
      some [Char.ofNat (point + distance).toNat]
    else none

def single? (point : Nat) : Option (List Char) :=
  singleImages.findSome? fun (first, last, images) =>
    if first ≤ point && point ≤ last then (images.toList[point - first]?).map ([·]) else none

def word? (point : Nat) : Option (List Char) :=
  wordImages.findSome? fun (first, last, images) =>
    if first ≤ point && point ≤ last then
      ((images.splitOn " ")[point - first]?).map String.toList
    else none

def long? (point : Nat) : Option (List Char) :=
  (longImages.lookup point).map (·.map Char.ofNat)

/-- The characters that a character stands for, unless it has no place in a name. -/
def image? (char : Char) : Option (List Char) :=
  let point := char.toNat
  if point < 0x80 then some [char.toLower]
  else if ignoredRanges.covers char then some []
  else
    let special := (shifted? point).orElse fun _ =>
      (single? point).orElse fun _ => (word? point).orElse fun _ => long? point
    let unfit := Text.isVacant char || unfitRanges.covers char ||
      (Text.isFormat char && !isJoiner char)
    special.orElse fun _ => if unfit then none else some [char]

end LiveChat.Url.Domain
