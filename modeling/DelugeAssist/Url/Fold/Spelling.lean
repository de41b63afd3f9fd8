-- Characters that count as others, spelled out one by one. A row goes with characters that follow
-- one another, from a first one on.

import DelugeAssist.Text.Measure

namespace DelugeAssist

/-- Rows of characters that count as one other: the first of them, and what each counts as. -/
def letterRows : List (Nat × String) :=
  [(0xaa, "a"), (0xb2, "23"), (0xb5, "μ"), (0xb9, "1o"), (0x134, "ĵ"), (0x136, "ķ"),
   (0x13b, "ļ"), (0x143, "ń"), (0x147, "ň"), (0x178, "ÿ"), (0x17f, "s"), (0x181, "ɓƃ"),
   (0x184, "ƅ"), (0x186, "ɔƈ"), (0x189, "ɖɗƌ"), (0x18e, "ǝəɛƒ"), (0x193, "ɠɣ"), (0x196, "ɩɨƙ"),
   (0x19c, "ɯɲ"), (0x19f, "ɵ"), (0x1a6, "ʀƨ"), (0x1a9, "ʃ"), (0x1ac, "ƭ"), (0x1ae, "ʈư"),
   (0x1b1, "ʊʋƴ"), (0x1b5, "ƶ"), (0x1b7, "ʒƹ"), (0x1bc, "ƽ"), (0x1f6, "ƕƿ"), (0x220, "ƞ"),
   (0x23a, "ⱥȼ"), (0x23d, "ƚⱦ"), (0x241, "ɂ"), (0x243, "ƀʉʌ"), (0x2b0, "hɦjrɹɻʁwy"),
   (0x2e0, "ɣlsxʕ"), (0x340, "\u0300\u0301"), (0x343, "\u0313"), (0x345, "ι"), (0x370, "ͱ"),
   (0x372, "ͳ"), (0x374, "\u02b9"), (0x376, "ͷ"), (0x37e, ";ϳ"), (0x386, "ά·"), (0x38c, "ό"),
   (0x38e, "ύώ"), (0x3cf, "ϗβθυύϋφπ"), (0x3f0, "κρσ"), (0x3f4, "θε"), (0x3f7, "ϸ"),
   (0x3f9, "σϻ"), (0x4c0, "ӏ"), (0xf0c, "་"), (0x10c7, "ⴧ"), (0x10cd, "ⴭ"), (0x10fc, "ნ"),
   (0x1c80, "вдосттъѣꙋ\u1c8a"), (0x1d2c, "aæb"), (0x1d32, "ǝ"), (0x1d36, "j"), (0x1d3a, "n"),
   (0x1d3c, "oȣprtuwaɐɑᴂbdeəɛɜg"), (0x1d4f, "kmŋoɔᴖᴗptuᴝɯvᴥ"), (0x1d60, "φχiruvβγρφχ"),
   (0x1d78, "н"), (0x1d9b, "ɒcɕðɜfɟɡɥ"), (0x1da7, "ᵻʝɭᶅʟɱɰ"), (0x1db2, "ɸʂʃƫʉʊᴜʋʌz"),
   (0x1dbf, "θ"), (0x1e9b, "ṡ"), (0x1e9e, "ß"), (0x1f71, "ά"), (0x1f73, "έ"), (0x1f75, "ή"),
   (0x1f77, "ί"), (0x1f79, "ό"), (0x1f7b, "ύ"), (0x1f7d, "ώ"), (0x1fb8, "ᾰᾱὰά"), (0x1fbe, "ι"),
   (0x1fc8, "ὲέὴή"), (0x1fd3, "ΐ"), (0x1fd8, "ῐῑὶί"), (0x1fe3, "ΰ"), (0x1fe8, "ῠῡὺύῥ"),
   (0x1fef, "`"), (0x1ff8, "ὸόὼώ"), (0x2011, "‐"), (0x2071, "i"), (0x2079, "9+−=()n"),
   (0x208a, "+−=()"), (0x2090, "aeoxəh"), (0x209a, "pst"), (0x2102, "c"), (0x2107, "ɛ"),
   (0x210a, "ghhhhħiill"), (0x2115, "n"), (0x211c, "rr"), (0x2124, "z"), (0x2126, "ω"),
   (0x2128, "z"), (0x212a, "kåbc"), (0x212f, "eefⅎmo"), (0x2139, "i"), (0x213c, "πγγπ∑"),
   (0x2145, "ddeij"), (0x2160, "i"), (0x2164, "v"), (0x2169, "x"), (0x216c, "lcdmi"),
   (0x2174, "v"), (0x2179, "x"), (0x217c, "lcdm"), (0x2183, "ↄ"), (0x2329, "〈〉"),
   (0x24ea, "0"), (0x2c60, "ⱡ"), (0x2c62, "ɫᵽɽ"), (0x2c6d, "ɑɱɐɒ"), (0x2c72, "ⱳ"), (0x2c75, "ⱶ"),
   (0x2c7c, "jvȿɀ"), (0x2ceb, "ⳬ"), (0x2ced, "ⳮ"), (0x2cf2, "ⳳ"), (0x2d6f, "ⵡ"), (0x2e9f, "母"),
   (0x2ef3, "龟"), (0x2f00, "一丨丶丿乙亅二亠人儿入八冂冖冫几凵刀力勹匕匚匸十卜卩厂厶又口囗"),
   (0x2f1f, "土士夂夊夕大女子宀寸小尢尸屮山巛工己巾干幺广廴廾弋弓彐彡彳心戈"),
   (0x2f3e, "戶手支攴文斗斤方无日曰月木欠止歹殳毋比毛氏气水火爪父爻爿片牙牛"),
   (0x2f5d, "犬玄玉瓜瓦甘生用田疋疒癶白皮皿目矛矢石示禸禾穴立竹米糸缶网羊羽"),
   (0x2f7c, "老而耒耳聿肉臣自至臼舌舛舟艮色艸虍虫血行衣襾見角言谷豆豕豸貝赤"),
   (0x2f9b, "走足身車辛辰辵邑酉釆里金長門阜隶隹雨靑非面革韋韭音頁風飛食首香"),
   (0x2fba, "馬骨高髟鬥鬯鬲鬼魚鳥鹵鹿麥麻黃黍黑黹黽鼎鼓鼠鼻齊齒龍龜龠"), (0x3002, "."),
   (0x3036, "〒"), (0x3038, "十卄卅"), (0x3131, "ᄀᄁᆪᄂᆬᆭ"), (0x3140, "ᄚ"), (0x3144, "ᄡ"),
   (0x3165, "ᄔᄕᇇᇈᇌᇎᇓᇗᇙᄜᇝᇟᄝᄞᄠᄢᄣᄧᄩ"), (0x317d, "ᄲᄶᅀᅇᅌᇱᇲ"), (0x3187, "ᆄᆅᆈᆑᆒᆔᆞᆡ"),
   (0x3192, "一二三四上中下甲乙丙丁天地人"), (0x3244, "問幼文箏"), (0x3260, "ᄀᄂᄃ"),
   (0x3266, "ᄉᄋᄌ"), (0x326e, "가나다라마바사아자차카타파하"), (0x327e, "우"),
   (0x3280, "一二三四五六七八九十月火水木金土日株有社名特財祝労秘男女適優印"),
   (0x329f, "注項休写正上中下左右医宗学監企資協夜"),
   (0x32d0, "アイウエオカキクケコサシスセソタチツテト"), (0x32ea, "ヒフヘホ"), (0x32f3, "ヤユ"),
   (0xa69c, "ъь"), (0xa770, "ꝯ"), (0xa779, "ꝺ"), (0xa77b, "ꝼ"), (0xa77d, "ᵹ"), (0xa78b, "ꞌ"),
   (0xa78d, "ɥ"), (0xa790, "ꞑ"), (0xa7aa, "ɦɜɡɬɪ"), (0xa7b0, "ʞʇʝꭓ"), (0xa7c4, "ꞔʂᶎꟈ"),
   (0xa7c9, "ꟊ"), (0xa7cb, "ɤ"), (0xa7dc, "ƛ"), (0xa7f1, "scfqꟶ"), (0xa7f8, "ħœ"),
   (0xab5c, "ꜧꬷɫꭒ"), (0xab69, "ʍ"),
   (0xf900, "豈更車賈滑串句龜龜契金喇奈懶癩羅蘿螺裸邏樂洛烙珞落酪駱亂卵欄爛"),
   (0xf91f, "蘭鸞嵐濫藍襤拉臘蠟廊朗浪狼郎來冷勞擄櫓爐盧老蘆虜路露魯鷺碌祿綠"),
   (0xf93e, "菉錄鹿論壟弄籠聾牢磊賂雷壘屢樓淚漏累縷陋勒肋凜凌稜綾菱陵讀拏樂"),
   (0xf95d, "諾丹寧怒率異北磻便復不泌數索參塞省葉說殺辰沈拾若掠略亮兩凉梁糧"),
   (0xf97c, "良諒量勵呂女廬旅濾礪閭驪麗黎力曆歷轢年憐戀撚漣煉璉秊練聯輦蓮連"),
   (0xf99b, "鍊列劣咽烈裂說廉念捻殮簾獵令囹寧嶺怜玲瑩羚聆鈴零靈領例禮醴隸惡"),
   (0xf9ba, "了僚寮尿料樂燎療蓼遼龍暈阮劉杻柳流溜琉留硫紐類六戮陸倫崙淪輪律"),
   (0xf9d9, "慄栗率隆利吏履易李梨泥理痢罹裏裡里離匿溺吝燐璘藺隣鱗麟林淋臨立"),
   (0xf9f8, "笠粒狀炙識什茶刺切度拓糖宅洞暴輻行降見廓兀嗀"), (0xfa10, "塚"), (0xfa12, "晴"),
   (0xfa15, "凞猪益礼神祥福靖精羽"), (0xfa20, "蘒"), (0xfa22, "諸"), (0xfa25, "逸都"),
   (0xfa2a, "飯飼館鶴郞隷侮僧免勉勤卑喝嘆器塀墨層屮悔慨憎懲敏既暑梅海渚漢煮"),
   (0xfa49, "爫琢碑社祉祈祐祖祝禍禎穀突節練縉繁署者臭艹艹著褐視謁謹賓贈辶逸"),
   (0xfa68, "難響頻恵𤋮舘"),
   (0xfa70, "並况全侀充冀勇勺喝啕喙嗢塚墳奄奔婢嬨廒廙彩徭惘慎愈憎慠懲戴揄搜"),
   (0xfa8f, "摒敖晴朗望杖歹殺流滛滋漢瀞煮瞧爵犯猪瑱甆画瘝瘟益盛直睊着磌窱節"),
   (0xfaae, "类絛練缾者荒華蝹襁覆視調諸請謁諾諭謹變贈輸遲醙鉶陼難靖韛響頋頻"),
   (0xfacd, "鬒龜𢡊𢡄𣏕㮝䀘䀹𥉉𥳐𧻓齃龎"), (0xfb20, "\u05e2\u05d0\u05d3\u05d4"),
   (0xfb27, "\u05e8\u05ea+"),
   (0xfb50, "\u0671\u0671\u067b\u067b\u067b\u067b\u067e\u067e\u067e\u067e"),
   (0xfb5a, "\u0680\u0680\u0680\u0680\u067a\u067a\u067a\u067a\u067f\u067f"),
   (0xfb64, "\u067f\u067f\u0679\u0679\u0679\u0679\u06a4\u06a4\u06a4\u06a4"),
   (0xfb6e, "\u06a6\u06a6\u06a6\u06a6\u0684\u0684\u0684\u0684\u0683\u0683"),
   (0xfb78, "\u0683\u0683\u0686\u0686\u0686\u0686\u0687\u0687\u0687\u0687"),
   (0xfb82, "\u068d\u068d\u068c\u068c\u068e\u068e\u0688\u0688\u0698\u0698"),
   (0xfb8c, "\u0691\u0691\u06a9\u06a9\u06a9\u06a9\u06af\u06af\u06af\u06af"),
   (0xfb96, "\u06b3\u06b3\u06b3\u06b3\u06b1\u06b1\u06b1\u06b1\u06ba\u06ba"),
   (0xfba0, "\u06bb\u06bb\u06bb\u06bb\u06c0\u06c0\u06c1\u06c1\u06c1\u06c1"),
   (0xfbaa, "\u06be\u06be\u06be\u06be\u06d2\u06d2\u06d3\u06d3"),
   (0xfbd3, "\u06ad\u06ad\u06ad\u06ad\u06c7\u06c7\u06c6\u06c6\u06c8\u06c8"),
   (0xfbde, "\u06cb\u06cb\u06c5\u06c5\u06c9\u06c9\u06d0\u06d0\u06d0\u06d0"),
   (0xfbe8, "\u0649\u0649"), (0xfbfc, "\u06cc\u06cc\u06cc\u06cc"), (0xfe10, ",、"),
   (0xfe14, ";!"), (0xfe17, "〖〗"), (0xfe31, "—–__()\x7b\x7d〔〕【】《》〈〉"),
   (0xfe4d, "___,、"), (0xfe54, ";"), (0xfe57, "!—()\x7b\x7d〔〕"), (0xfe60, "&*+-"),
   (0xfe66, "="), (0xfe69, "$"),
   (0xfe80, "\u0621\u0622\u0622\u0623\u0623\u0624\u0624\u0625\u0625\u0626"),
   (0xfe8a, "\u0626\u0626\u0626\u0627\u0627\u0628\u0628\u0628\u0628\u0629"),
   (0xfe94, "\u0629\u062a\u062a\u062a\u062a\u062b\u062b\u062b\u062b\u062c"),
   (0xfe9e, "\u062c\u062c\u062c\u062d\u062d\u062d\u062d\u062e\u062e\u062e"),
   (0xfea8, "\u062e\u062f\u062f\u0630\u0630\u0631\u0631\u0632\u0632\u0633"),
   (0xfeb2, "\u0633\u0633\u0633\u0634\u0634\u0634\u0634\u0635\u0635\u0635"),
   (0xfebc, "\u0635\u0636\u0636\u0636\u0636\u0637\u0637\u0637\u0637\u0638"),
   (0xfec6, "\u0638\u0638\u0638\u0639\u0639\u0639\u0639\u063a\u063a\u063a"),
   (0xfed0, "\u063a\u0641\u0641\u0641\u0641\u0642\u0642\u0642\u0642\u0643"),
   (0xfeda, "\u0643\u0643\u0643\u0644\u0644\u0644\u0644\u0645\u0645\u0645"),
   (0xfee4, "\u0645\u0646\u0646\u0646\u0646\u0647\u0647\u0647\u0647\u0648"),
   (0xfeee, "\u0648\u0649\u0649\u064a\u064a\u064a\u064a"), (0xff01, "!"),
   (0xff5d, "\x7d~⦅⦆.「」、・ヲァィゥェォャュョッ\u30fcアイウエオカキクケコ"),
   (0xff7b, "サシスセソタチツテト"), (0xff8b, "ヒフヘホ"), (0xff94, "ヤユ"),
   (0xff9c, "ワン\u3099\u309a"), (0xffa1, "ᄀᄁᆪᄂᆬᆭ"), (0xffb0, "ᄚ"), (0xffb4, "ᄡ"),
   (0xffe0, "¢£¬"), (0xffe4, "¦¥₩"), (0xffe8, "│"), (0xffed, "■○"), (0x10573, "𐖚"),
   (0x10577, "𐖞"), (0x1058f, "𐖶"), (0x10781, "\u02d0\u02d1æʙɓ"),
   (0x10787, "ʣꭦʥʤɖɗᶑɘɞʩɤɢɠʛħʜɧʄʪʫɬ𝼄ꞎɮ𝼅ʎ𝼆øɶɷqɺ𝼈ɽɾʀʨʦꭧʧʈⱱ"), (0x107b2, "ʏʡʢʘ"), (0x107b9, "𝼊𝼞"),
   (0x1d451, "d"), (0x1d49c, "a"), (0x1d49f, "d"), (0x1d4a5, "j"), (0x1d4a9, "n"),
   (0x1d4b1, "v"), (0x1d4b5, "z"), (0x1d4c0, "k"), (0x1d4c8, "s"), (0x1d4cc, "w"),
   (0x1d504, "a"), (0x1d507, "de"), (0x1d519, "v"), (0x1d541, "j"), (0x1d543, "l"),
   (0x1d54f, "xy"), (0x1d6a4, "ıȷ"), (0x1d6b9, "θ"), (0x1d6c1, "∇"), (0x1d6d3, "σ"),
   (0x1d6db, "∂εθκφρπ"), (0x1d6f3, "θ"), (0x1d6fb, "∇"), (0x1d70d, "σ"), (0x1d715, "∂εθκφρπ"),
   (0x1d72d, "θ"), (0x1d735, "∇"), (0x1d747, "σ"), (0x1d74f, "∂εθκφρπ"), (0x1d767, "θ"),
   (0x1d76f, "∇"), (0x1d781, "σ"), (0x1d789, "∂εθκφρπ"), (0x1d7a1, "θ"), (0x1d7a9, "∇"),
   (0x1d7bb, "σ"), (0x1d7c3, "∂εθκφρπϝϝ"), (0x1e047, "ыэюꚉәіјөүӏ"), (0x1e05a, "клопс"),
   (0x1e065, "ъыґіѕџҫꙑұ"), (0x1ee00, "\u0627\u0628\u062c\u062f"),
   (0x1ee05, "\u0648\u0632\u062d\u0637\u064a"),
   (0x1ee0e, "\u0633\u0639\u0641\u0635\u0642\u0631\u0634\u062a\u062b\u062e"),
   (0x1ee18, "\u0630\u0636\u0638\u063a\u066e\u06ba\u06a1\u066f"), (0x1ee21, "\u0628\u062c"),
   (0x1ee24, "\u0647"), (0x1ee27, "\u062d"), (0x1ee29, "\u064a"),
   (0x1ee2e, "\u0633\u0639\u0641\u0635\u0642"), (0x1ee34, "\u0634\u062a\u062b\u062e"),
   (0x1ee39, "\u0636"), (0x1ee3b, "\u063a"), (0x1ee42, "\u062c"), (0x1ee47, "\u062d"),
   (0x1ee49, "\u064a"), (0x1ee4b, "\u0644"), (0x1ee4d, "\u0646\u0633\u0639"),
   (0x1ee51, "\u0635\u0642"), (0x1ee54, "\u0634"), (0x1ee57, "\u062e"), (0x1ee59, "\u0636"),
   (0x1ee5b, "\u063a"), (0x1ee5d, "\u06ba"), (0x1ee5f, "\u066f"), (0x1ee61, "\u0628\u062c"),
   (0x1ee64, "\u0647"), (0x1ee67, "\u062d\u0637\u064a\u0643"),
   (0x1ee6c, "\u0645\u0646\u0633\u0639\u0641\u0635\u0642"),
   (0x1ee74, "\u0634\u062a\u062b\u062e"), (0x1ee79, "\u0636\u0638\u063a\u066e"),
   (0x1ee7e, "\u06a1"),
   (0x1ee80, "\u0627\u0628\u062c\u062f\u0647\u0648\u0632\u062d\u0637\u064a"),
   (0x1ee8e, "\u0633\u0639\u0641\u0635\u0642\u0631\u0634\u062a\u062b\u062e"),
   (0x1ee98, "\u0630\u0636\u0638\u063a"), (0x1eea1, "\u0628\u062c\u062f"),
   (0x1eea5, "\u0648\u0632\u062d\u0637\u064a"),
   (0x1eeae, "\u0633\u0639\u0641\u0635\u0642\u0631\u0634\u062a\u062b\u062e"),
   (0x1eeb8, "\u0630\u0636\u0638\u063a"), (0x1f12b, "cr"), (0x1f202, "サ"),
   (0x1f210, "手字双デ二多解天交映無料前後再新初終生販声吹演投捕一三遊左中右"),
   (0x1f22f, "指走打禁空合満有月申割営配"), (0x1f250, "得可"),
   (0x2f800, "丽丸乁𠄢你侮侻倂偺備僧像㒞𠘺免兔兤具𠔜㒹內再𠕋冗冤仌冬况𩇟凵刃"),
   (0x2f81f, "㓟刻剆割剷㔕勇勉勤勺包匆北卉卑博即卽卿卿卿𠨬灰及叟𠭣叫叱吆咞吸"),
   (0x2f83e, "呈周咢哶唐啓啣善善喙喫喳嗂圖嘆圗噑噴切壮城埴堍型堲報墬𡓤売壷夆"),
   (0x2f85d, "多夢奢𡚨𡛪姬娛娧姘婦㛮㛼嬈嬾嬾𡧈寃寘寧寳𡬘寿将当尢㞁屠屮峀岍𡷤"),
   (0x2f87c, "嵃𡷦嵮嵫嵼巡巢㠯巽帨帽幩㡢𢆃㡼庰庳庶廊𪎒廾𢌱𢌱舁弢弢㣇𣊸𦇚形彫"),
   (0x2f89b, "㣣徚忍志忹悁㤺㤜悔𢛔惇慈慌慎慌慺憎憲憤憯懞懲懶成戛扝抱拔捐𢬌挽"),
   (0x2f8ba, "拼捨掃揤𢯱搢揅掩㨮摩摾撝摷㩬敏敬𣀊旣書晉㬙暑㬈㫤冒冕最暜肭䏙朗"),
   (0x2f8d9, "望朡杞杓𣏃㭉柺枅桒梅𣑭梎栟椔㮝楂榣槪檨𣚣櫛㰘次𣢧歔㱎歲殟殺殻𣪍"),
   (0x2f8f8, "𡴋𣫺汎𣲼沿泍汧洖派海流浩浸涅𣴞洴港湮㴳滋滇𣻑淹潮𣽞𣾎濆瀹瀞瀛㶖"),
   (0x2f917, "灊災灷炭𠔥煅𤉣熜𤎫爨爵牐𤘈犀犕𤜵𤠔獺王㺬玥㺸㺸瑇瑜瑱璅瓊㼛甤𤰶"),
   (0x2f936, "甾𤲒異𢆟瘐𤾡𤾸𥁄㿼䀈直𥃳𥃲𥄙𥄳眞真真睊䀹瞋䁆䂖𥐝硎碌磌䃣𥘦祖𥚚"),
   (0x2f955, "𥛅福秫䄯穀穊穏𥥼𥪧𥪧竮䈂𥮫篆築䈧𥲀糒䊠糨糣紀𥾆絣䌁緇縂繅䌴𦈨𦉇"),
   (0x2f974, "䍙𦋙罺𦌾羕翺者𦓚𦔣聠𦖨聰𣍟䏕育脃䐋脾媵𦞧𦞵𣎓𣎜舁舄辞䑫芑芋芝劳"),
   (0x2f993, "花芳芽苦𦬼若茝荣莭茣莽菧著荓菊菌菜𦰶𦵫𦳕䔫蓱蓳蔖𧏊蕤𦼬䕝䕡𦾱𧃒"),
   (0x2f9b2, "䕫虐虜虧虩蚩蚈蜎蛢蝹蜨蝫螆䗗蟡蠁䗹衠衣𧙧裗裞䘵裺㒻𧢮𧥦䚾䛇誠諭"),
   (0x2f9d1, "變豕𧲨貫賁贛起𧼯𠠄跋趼跰𠣞軔輸𨗒𨗭邔郱鄑𨜮鄛鈸鋗鋘鉼鏹鐕𨯺開䦕"),
   (0x2f9f0, "閷𨵷䧦雃嶲霣𩅅𩈚䩮䩶韠𩐊䪲𩒖頋頋頩𩖶飢䬳餩馧駂駾䯎𩬰鬒鱀鳽䳎䳭"),
   (0x2fa0f, "鵧𪃎䳸𪄅𪈎𪊑麻䵖黹黾鼅鼏鼖鼻𪘀")]

/-- Rows of characters that count as several: the first of them, and what each counts as, with a
blank between. -/
def wordRows : List (Nat × String) :=
  [(0xbc, "1⁄4 1⁄2 3⁄4"), (0x130, "i\u0307"), (0x132, "ij ij"), (0x13f, "l· l·"),
   (0x149, "\u02bcn"), (0x1c4, "dž dž dž lj lj lj nj nj nj"), (0x1f1, "dz dz dz"),
   (0x344, "\u0308\u0301"), (0x587, "եւ"),
   (0x675, "\u0627\u0674 \u0648\u0674 \u06c7\u0674 \u064a\u0674"),
   (0x958, "क\u093c ख\u093c ग\u093c ज\u093c ड\u093c ढ\u093c फ\u093c य\u093c"),
   (0x9dc, "ড\u09bc ঢ\u09bc"), (0x9df, "য\u09bc"), (0xa33, "ਲ\u0a3c"), (0xa36, "ਸ\u0a3c"),
   (0xa59, "ਖ\u0a3c ਗ\u0a3c ਜ\u0a3c"), (0xa5e, "ਫ\u0a3c"), (0xb5c, "ଡ\u0b3c ଢ\u0b3c"),
   (0xe33, "\u0e4dา"), (0xeb3, "\u0ecdາ"), (0xedc, "ຫນ ຫມ"), (0xf43, "ག\u0fb7"),
   (0xf4d, "ཌ\u0fb7"), (0xf52, "ད\u0fb7"), (0xf57, "བ\u0fb7"), (0xf5c, "ཛ\u0fb7"),
   (0xf69, "ཀ\u0fb5"), (0xf73, "\u0f71\u0f72"),
   (0xf75, "\u0f71\u0f74 \u0fb2\u0f80 \u0fb2\u0f71\u0f80 \u0fb3\u0f80"),
   (0xf79, "\u0fb3\u0f71\u0f80"), (0xf81, "\u0f71\u0f80"), (0xf93, "\u0f92\u0fb7"),
   (0xf9d, "\u0f9c\u0fb7"), (0xfa2, "\u0fa1\u0fb7"), (0xfa7, "\u0fa6\u0fb7"),
   (0xfac, "\u0fab\u0fb7"), (0xfb9, "\u0f90\u0fb5"), (0x1e9a, "a\u02be"),
   (0x1f80, "ἀι ἁι ἂι ἃι ἄι ἅι ἆι ἇι ἀι ἁι ἂι ἃι ἄι ἅι ἆι ἇι ἠι ἡι ἢι ἣι ἤι"),
   (0x1f95, "ἥι ἦι ἧι ἠι ἡι ἢι ἣι ἤι ἥι ἦι ἧι ὠι ὡι ὢι ὣι ὤι ὥι ὦι ὧι ὠι ὡι"),
   (0x1faa, "ὢι ὣι ὤι ὥι ὦι ὧι"), (0x1fb2, "ὰι αι άι"), (0x1fb7, "ᾶι"), (0x1fbc, "αι"),
   (0x1fc2, "ὴι ηι ήι"), (0x1fc7, "ῆι"), (0x1fcc, "ηι"), (0x1ff2, "ὼι ωι ώι"), (0x1ff7, "ῶι"),
   (0x1ffc, "ωι"), (0x2033, "′′ ′′′"), (0x2036, "‵‵ ‵‵‵"), (0x203c, "!!"), (0x2057, "′′′′"),
   (0x20a8, "rs"), (0x2103, "°c"), (0x2109, "°f"), (0x2116, "no"), (0x2120, "sm tel tm"),
   (0x213b, "fax"), (0x2150, "1⁄7 1⁄9 1⁄10 1⁄3 2⁄3 1⁄5 2⁄5 3⁄5 4⁄5 1⁄6 5⁄6 1⁄8 3⁄8 5⁄8 7⁄8 1⁄"),
   (0x2161, "ii iii iv"), (0x2165, "vi vii viii ix"), (0x216a, "xi xii"), (0x2171, "ii iii iv"),
   (0x2175, "vi vii viii ix"), (0x217a, "xi xii"), (0x2189, "0⁄3"), (0x222c, "∫∫ ∫∫∫"),
   (0x222f, "∮∮ ∮∮∮"),
   (0x2469, "10 11 12 13 14 15 16 17 18 19 20 (1) (2) (3) (4) (5) (6) (7) (8)"),
   (0x247c, "(9) (10) (11) (12) (13) (14) (15) (16) (17) (18) (19) (20)"),
   (0x249c, "(a) (b) (c) (d) (e) (f) (g) (h) (i) (j) (k) (l) (m) (n) (o) (p)"),
   (0x24ac, "(q) (r) (s) (t) (u) (v) (w) (x) (y) (z)"), (0x2a0c, "∫∫∫∫"), (0x2a75, "== ==="),
   (0x2adc, "⫝\u0338"), (0x309f, "より"), (0x30ff, "コト"),
   (0x3200, "(ᄀ) (ᄂ) (ᄃ) (ᄅ) (ᄆ) (ᄇ) (ᄉ) (ᄋ) (ᄌ) (ᄎ) (ᄏ) (ᄐ) (ᄑ)"),
   (0x320d, "(ᄒ) (가) (나) (다) (라) (마) (바) (사) (아) (자) (차) (카) (타)"),
   (0x321a, "(파) (하) (주) (오전) (오후)"),
   (0x3220, "(一) (二) (三) (四) (五) (六) (七) (八) (九) (十) (月) (火) (水)"),
   (0x322d, "(木) (金) (土) (日) (株) (有) (社) (名) (特) (財) (祝) (労) (代)"),
   (0x323a, "(呼) (学) (監) (企) (資) (協) (祭) (休) (自) (至)"),
   (0x3250, "pte 21 22 23 24 25 26 27 28 29 30 31 32 33 34 35"), (0x327c, "참고 주의"),
   (0x32b1, "36 37 38 39 40 41 42 43 44 45 46 47 48 49 50 1月 2月 3月 4月 5月"),
   (0x32c5, "6月 7月 8月 9月 10月 11月 12月 hg erg ev ltd"),
   (0x32ff, "令和 アパ\u30fcト アルファ アンペア ア\u30fcル イニング インチ"),
   (0x3306, "ウォン エスク\u30fcド エ\u30fcカ\u30fc オンス オ\u30fcム カイリ"),
   (0x330c, "カラット カロリ\u30fc ガロン ガンマ ギガ ギニ\u30fc キュリ\u30fc"),
   (0x3313, "ギルダ\u30fc キロ キログラム キロメ\u30fcトル キロワット グラム"),
   (0x3319, "グラムトン クルゼイロ クロ\u30fcネ ケ\u30fcス コルナ コ\u30fcポ"),
   (0x331f, "サイクル サンチ\u30fcム シリング センチ セント ダ\u30fcス デシ"),
   (0x3326, "ドル トン ナノ ノット ハイツ パ\u30fcセント パ\u30fcツ"),
   (0x332d, "バ\u30fcレル ピアストル ピクル ピコ ビル ファラッド フィ\u30fcト"),
   (0x3334, "ブッシェル フラン ヘクタ\u30fcル ペソ ペニヒ ヘルツ ペンス"),
   (0x333b, "ペ\u30fcジ ベ\u30fcタ ポイント ボルト ホン ポンド ホ\u30fcル"),
   (0x3342, "ホ\u30fcン マイクロ マイル マッハ マルク マンション ミクロン"),
   (0x3349, "ミリ ミリバ\u30fcル メガ メガトン メ\u30fcトル ヤ\u30fcド"),
   (0x334f, "ヤ\u30fcル ユアン リットル リラ ルピ\u30fc ル\u30fcブル レム"),
   (0x3356, "レントゲン ワット 0点 1点 2点 3点 4点 5点 6点 7点 8点 9点 10点"),
   (0x3363, "11点 12点 13点 14点 15点 16点 17点 18点 19点 20点 21点 22点 23点"),
   (0x3370, "24点 hpa da au bar ov pc dm dm2 dm3 iu 平成 昭和 大正 明治"),
   (0x337f, "株式会社 pa na μa ma ka kb mb gb cal kcal pf nf μf μg mg kg hz"),
   (0x3391, "khz mhz ghz thz μl ml dl kl fm nm μm mm cm km mm2 cm2 m2 km2 mm3"),
   (0x33a4, "cm3 m3 km3 m∕s m∕s2 pa kpa mpa gpa rad rad∕s rad∕s2 ps ns μs ms"),
   (0x33b4, "pv nv μv mv kv mv pw nw μw mw kw mw kω mω"), (0x33c3, "bq cc cd c∕kg"),
   (0x33c8, "db gy ha hp in kk km kt lm ln log lx mb mil mol ph"),
   (0x33d9, "ppm pr sr sv wb v∕m a∕m 1日 2日 3日 4日 5日 6日 7日 8日 9日 10日"),
   (0x33ea, "11日 12日 13日 14日 15日 16日 17日 18日 19日 20日 21日 22日 23日"),
   (0x33f7, "24日 25日 26日 27日 28日 29日 30日 31日 gal"), (0xfb00, "ff fi fl ffi ffl st st"),
   (0xfb13, "մն մե մի վն մխ"), (0xfb1d, "\u05d9\u05b4"), (0xfb1f, "\u05f2\u05b7"),
   (0xfb2a, "\u05e9\u05c1 \u05e9\u05c2 \u05e9\u05bc\u05c1 \u05e9\u05bc\u05c2"),
   (0xfb2e, "\u05d0\u05b7 \u05d0\u05b8 \u05d0\u05bc \u05d1\u05bc \u05d2\u05bc"),
   (0xfb33, "\u05d3\u05bc \u05d4\u05bc \u05d5\u05bc \u05d6\u05bc"),
   (0xfb38, "\u05d8\u05bc \u05d9\u05bc \u05da\u05bc \u05db\u05bc \u05dc\u05bc"),
   (0xfb3e, "\u05de\u05bc"), (0xfb40, "\u05e0\u05bc \u05e1\u05bc"),
   (0xfb43, "\u05e3\u05bc \u05e4\u05bc"),
   (0xfb46, "\u05e6\u05bc \u05e7\u05bc \u05e8\u05bc \u05e9\u05bc \u05ea\u05bc"),
   (0xfb4b, "\u05d5\u05b9 \u05d1\u05bf \u05db\u05bf \u05e4\u05bf \u05d0\u05dc"),
   (0xfbdd, "\u06c7\u0674"),
   (0xfbea, "\u0626\u0627 \u0626\u0627 \u0626\u06d5 \u0626\u06d5 \u0626\u0648"),
   (0xfbef, "\u0626\u0648 \u0626\u06c7 \u0626\u06c7 \u0626\u06c6 \u0626\u06c6"),
   (0xfbf4, "\u0626\u06c8 \u0626\u06c8 \u0626\u06d0 \u0626\u06d0 \u0626\u06d0"),
   (0xfbf9, "\u0626\u0649 \u0626\u0649 \u0626\u0649"),
   (0xfc00, "\u0626\u062c \u0626\u062d \u0626\u0645 \u0626\u0649 \u0626\u064a"),
   (0xfc05, "\u0628\u062c \u0628\u062d \u0628\u062e \u0628\u0645 \u0628\u0649"),
   (0xfc0a, "\u0628\u064a \u062a\u062c \u062a\u062d \u062a\u062e \u062a\u0645"),
   (0xfc0f, "\u062a\u0649 \u062a\u064a \u062b\u062c \u062b\u0645 \u062b\u0649"),
   (0xfc14, "\u062b\u064a \u062c\u062d \u062c\u0645 \u062d\u062c \u062d\u0645"),
   (0xfc19, "\u062e\u062c \u062e\u062d \u062e\u0645 \u0633\u062c \u0633\u062d"),
   (0xfc1e, "\u0633\u062e \u0633\u0645 \u0635\u062d \u0635\u0645 \u0636\u062c"),
   (0xfc23, "\u0636\u062d \u0636\u062e \u0636\u0645 \u0637\u062d \u0637\u0645"),
   (0xfc28, "\u0638\u0645 \u0639\u062c \u0639\u0645 \u063a\u062c \u063a\u0645"),
   (0xfc2d, "\u0641\u062c \u0641\u062d \u0641\u062e \u0641\u0645 \u0641\u0649"),
   (0xfc32, "\u0641\u064a \u0642\u062d \u0642\u0645 \u0642\u0649 \u0642\u064a"),
   (0xfc37, "\u0643\u0627 \u0643\u062c \u0643\u062d \u0643\u062e \u0643\u0644"),
   (0xfc3c, "\u0643\u0645 \u0643\u0649 \u0643\u064a \u0644\u062c \u0644\u062d"),
   (0xfc41, "\u0644\u062e \u0644\u0645 \u0644\u0649 \u0644\u064a \u0645\u062c"),
   (0xfc46, "\u0645\u062d \u0645\u062e \u0645\u0645 \u0645\u0649 \u0645\u064a"),
   (0xfc4b, "\u0646\u062c \u0646\u062d \u0646\u062e \u0646\u0645 \u0646\u0649"),
   (0xfc50, "\u0646\u064a \u0647\u062c \u0647\u0645 \u0647\u0649 \u0647\u064a"),
   (0xfc55, "\u064a\u062c \u064a\u062d \u064a\u062e \u064a\u0645 \u064a\u0649"),
   (0xfc5a, "\u064a\u064a \u0630\u0670 \u0631\u0670 \u0649\u0670"),
   (0xfc64, "\u0626\u0631 \u0626\u0632 \u0626\u0645 \u0626\u0646 \u0626\u0649"),
   (0xfc69, "\u0626\u064a \u0628\u0631 \u0628\u0632 \u0628\u0645 \u0628\u0646"),
   (0xfc6e, "\u0628\u0649 \u0628\u064a \u062a\u0631 \u062a\u0632 \u062a\u0645"),
   (0xfc73, "\u062a\u0646 \u062a\u0649 \u062a\u064a \u062b\u0631 \u062b\u0632"),
   (0xfc78, "\u062b\u0645 \u062b\u0646 \u062b\u0649 \u062b\u064a \u0641\u0649"),
   (0xfc7d, "\u0641\u064a \u0642\u0649 \u0642\u064a \u0643\u0627 \u0643\u0644"),
   (0xfc82, "\u0643\u0645 \u0643\u0649 \u0643\u064a \u0644\u0645 \u0644\u0649"),
   (0xfc87, "\u0644\u064a \u0645\u0627 \u0645\u0645 \u0646\u0631 \u0646\u0632"),
   (0xfc8c, "\u0646\u0645 \u0646\u0646 \u0646\u0649 \u0646\u064a \u0649\u0670"),
   (0xfc91, "\u064a\u0631 \u064a\u0632 \u064a\u0645 \u064a\u0646 \u064a\u0649"),
   (0xfc96, "\u064a\u064a \u0626\u062c \u0626\u062d \u0626\u062e \u0626\u0645"),
   (0xfc9b, "\u0626\u0647 \u0628\u062c \u0628\u062d \u0628\u062e \u0628\u0645"),
   (0xfca0, "\u0628\u0647 \u062a\u062c \u062a\u062d \u062a\u062e \u062a\u0645"),
   (0xfca5, "\u062a\u0647 \u062b\u0645 \u062c\u062d \u062c\u0645 \u062d\u062c"),
   (0xfcaa, "\u062d\u0645 \u062e\u062c \u062e\u0645 \u0633\u062c \u0633\u062d"),
   (0xfcaf, "\u0633\u062e \u0633\u0645 \u0635\u062d \u0635\u062e \u0635\u0645"),
   (0xfcb4, "\u0636\u062c \u0636\u062d \u0636\u062e \u0636\u0645 \u0637\u062d"),
   (0xfcb9, "\u0638\u0645 \u0639\u062c \u0639\u0645 \u063a\u062c \u063a\u0645"),
   (0xfcbe, "\u0641\u062c \u0641\u062d \u0641\u062e \u0641\u0645 \u0642\u062d"),
   (0xfcc3, "\u0642\u0645 \u0643\u062c \u0643\u062d \u0643\u062e \u0643\u0644"),
   (0xfcc8, "\u0643\u0645 \u0644\u062c \u0644\u062d \u0644\u062e \u0644\u0645"),
   (0xfccd, "\u0644\u0647 \u0645\u062c \u0645\u062d \u0645\u062e \u0645\u0645"),
   (0xfcd2, "\u0646\u062c \u0646\u062d \u0646\u062e \u0646\u0645 \u0646\u0647"),
   (0xfcd7, "\u0647\u062c \u0647\u0645 \u0647\u0670 \u064a\u062c \u064a\u062d"),
   (0xfcdc, "\u064a\u062e \u064a\u0645 \u064a\u0647 \u0626\u0645 \u0626\u0647"),
   (0xfce1, "\u0628\u0645 \u0628\u0647 \u062a\u0645 \u062a\u0647 \u062b\u0645"),
   (0xfce6, "\u062b\u0647 \u0633\u0645 \u0633\u0647 \u0634\u0645 \u0634\u0647"),
   (0xfceb, "\u0643\u0644 \u0643\u0645 \u0644\u0645 \u0646\u0645 \u0646\u0647"),
   (0xfcf0, "\u064a\u0645 \u064a\u0647 \u0640\u064e\u0651 \u0640\u064f\u0651"),
   (0xfcf4, "\u0640\u0650\u0651 \u0637\u0649 \u0637\u064a \u0639\u0649"),
   (0xfcf8, "\u0639\u064a \u063a\u0649 \u063a\u064a \u0633\u0649 \u0633\u064a"),
   (0xfcfd, "\u0634\u0649 \u0634\u064a \u062d\u0649 \u062d\u064a \u062c\u0649"),
   (0xfd02, "\u062c\u064a \u062e\u0649 \u062e\u064a \u0635\u0649 \u0635\u064a"),
   (0xfd07, "\u0636\u0649 \u0636\u064a \u0634\u062c \u0634\u062d \u0634\u062e"),
   (0xfd0c, "\u0634\u0645 \u0634\u0631 \u0633\u0631 \u0635\u0631 \u0636\u0631"),
   (0xfd11, "\u0637\u0649 \u0637\u064a \u0639\u0649 \u0639\u064a \u063a\u0649"),
   (0xfd16, "\u063a\u064a \u0633\u0649 \u0633\u064a \u0634\u0649 \u0634\u064a"),
   (0xfd1b, "\u062d\u0649 \u062d\u064a \u062c\u0649 \u062c\u064a \u062e\u0649"),
   (0xfd20, "\u062e\u064a \u0635\u0649 \u0635\u064a \u0636\u0649 \u0636\u064a"),
   (0xfd25, "\u0634\u062c \u0634\u062d \u0634\u062e \u0634\u0645 \u0634\u0631"),
   (0xfd2a, "\u0633\u0631 \u0635\u0631 \u0636\u0631 \u0634\u062c \u0634\u062d"),
   (0xfd2f, "\u0634\u062e \u0634\u0645 \u0633\u0647 \u0634\u0647 \u0637\u0645"),
   (0xfd34, "\u0633\u062c \u0633\u062d \u0633\u062e \u0634\u062c \u0634\u062d"),
   (0xfd39, "\u0634\u062e \u0637\u0645 \u0638\u0645 \u0627\u064b \u0627\u064b"),
   (0xfd50, "\u062a\u062c\u0645 \u062a\u062d\u062c \u062a\u062d\u062c"),
   (0xfd53, "\u062a\u062d\u0645 \u062a\u062e\u0645 \u062a\u0645\u062c"),
   (0xfd56, "\u062a\u0645\u062d \u062a\u0645\u062e \u062c\u0645\u062d"),
   (0xfd59, "\u062c\u0645\u062d \u062d\u0645\u064a \u062d\u0645\u0649"),
   (0xfd5c, "\u0633\u062d\u062c \u0633\u062c\u062d \u0633\u062c\u0649"),
   (0xfd5f, "\u0633\u0645\u062d \u0633\u0645\u062d \u0633\u0645\u062c"),
   (0xfd62, "\u0633\u0645\u0645 \u0633\u0645\u0645 \u0635\u062d\u062d"),
   (0xfd65, "\u0635\u062d\u062d \u0635\u0645\u0645 \u0634\u062d\u0645"),
   (0xfd68, "\u0634\u062d\u0645 \u0634\u062c\u064a \u0634\u0645\u062e"),
   (0xfd6b, "\u0634\u0645\u062e \u0634\u0645\u0645 \u0634\u0645\u0645"),
   (0xfd6e, "\u0636\u062d\u0649 \u0636\u062e\u0645 \u0636\u062e\u0645"),
   (0xfd71, "\u0637\u0645\u062d \u0637\u0645\u062d \u0637\u0645\u0645"),
   (0xfd74, "\u0637\u0645\u064a \u0639\u062c\u0645 \u0639\u0645\u0645"),
   (0xfd77, "\u0639\u0645\u0645 \u0639\u0645\u0649 \u063a\u0645\u0645"),
   (0xfd7a, "\u063a\u0645\u064a \u063a\u0645\u0649 \u0641\u062e\u0645"),
   (0xfd7d, "\u0641\u062e\u0645 \u0642\u0645\u062d \u0642\u0645\u0645"),
   (0xfd80, "\u0644\u062d\u0645 \u0644\u062d\u064a \u0644\u062d\u0649"),
   (0xfd83, "\u0644\u062c\u062c \u0644\u062c\u062c \u0644\u062e\u0645"),
   (0xfd86, "\u0644\u062e\u0645 \u0644\u0645\u062d \u0644\u0645\u062d"),
   (0xfd89, "\u0645\u062d\u062c \u0645\u062d\u0645 \u0645\u062d\u064a"),
   (0xfd8c, "\u0645\u062c\u062d \u0645\u062c\u0645 \u0645\u062e\u062c"),
   (0xfd8f, "\u0645\u062e\u0645"),
   (0xfd92, "\u0645\u062c\u062e \u0647\u0645\u062c \u0647\u0645\u0645"),
   (0xfd95, "\u0646\u062d\u0645 \u0646\u062d\u0649 \u0646\u062c\u0645"),
   (0xfd98, "\u0646\u062c\u0645 \u0646\u062c\u0649 \u0646\u0645\u064a"),
   (0xfd9b, "\u0646\u0645\u0649 \u064a\u0645\u0645 \u064a\u0645\u0645"),
   (0xfd9e, "\u0628\u062e\u064a \u062a\u062c\u064a \u062a\u062c\u0649"),
   (0xfda1, "\u062a\u062e\u064a \u062a\u062e\u0649 \u062a\u0645\u064a"),
   (0xfda4, "\u062a\u0645\u0649 \u062c\u0645\u064a \u062c\u062d\u0649"),
   (0xfda7, "\u062c\u0645\u0649 \u0633\u062e\u0649 \u0635\u062d\u064a"),
   (0xfdaa, "\u0634\u062d\u064a \u0636\u062d\u064a \u0644\u062c\u064a"),
   (0xfdad, "\u0644\u0645\u064a \u064a\u062d\u064a \u064a\u062c\u064a"),
   (0xfdb0, "\u064a\u0645\u064a \u0645\u0645\u064a \u0642\u0645\u064a"),
   (0xfdb3, "\u0646\u062d\u064a \u0642\u0645\u062d \u0644\u062d\u0645"),
   (0xfdb6, "\u0639\u0645\u064a \u0643\u0645\u064a \u0646\u062c\u062d"),
   (0xfdb9, "\u0645\u062e\u064a \u0644\u062c\u0645 \u0643\u0645\u0645"),
   (0xfdbc, "\u0644\u062c\u0645 \u0646\u062c\u062d \u062c\u062d\u064a"),
   (0xfdbf, "\u062d\u062c\u064a \u0645\u062c\u064a \u0641\u0645\u064a"),
   (0xfdc2, "\u0628\u062d\u064a \u0643\u0645\u0645 \u0639\u062c\u0645"),
   (0xfdc5, "\u0635\u0645\u0645 \u0633\u062e\u064a \u0646\u062c\u064a"),
   (0xfdf0, "\u0635\u0644\u06d2 \u0642\u0644\u06d2 \u0627\u0644\u0644\u0647"),
   (0xfdf3, "\u0627\u0643\u0628\u0631 \u0645\u062d\u0645\u062f"),
   (0xfdf5, "\u0635\u0644\u0639\u0645 \u0631\u0633\u0648\u0644"),
   (0xfdf7, "\u0639\u0644\u064a\u0647 \u0648\u0633\u0644\u0645"), (0xfdf9, "\u0635\u0644\u0649"),
   (0xfdfc, "\u0631\u06cc\u0627\u0644"), (0xfe71, "\u0640\u064b"), (0xfe77, "\u0640\u064e"),
   (0xfe79, "\u0640\u064f"), (0xfe7b, "\u0640\u0650"), (0xfe7d, "\u0640\u0651"),
   (0xfe7f, "\u0640\u0652"),
   (0xfef5, "\u0644\u0622 \u0644\u0622 \u0644\u0623 \u0644\u0623 \u0644\u0625"),
   (0xfefa, "\u0644\u0625 \u0644\u0627 \u0644\u0627"), (0x1d15e, "𝅗𝅥 𝅘𝅥 𝅘𝅥𝅮 𝅘𝅥𝅯 𝅘𝅥𝅰 𝅘𝅥𝅱 𝅘𝅥𝅲"),
   (0x1d1bb, "𝆹𝅥 𝆺𝅥 𝆹𝅥𝅮 𝆺𝅥𝅮 𝆹𝅥𝅯 𝆺𝅥𝅯"), (0x1f101, "0, 1, 2, 3, 4, 5, 6, 7, 8, 9,"),
   (0x1f110, "(a) (b) (c) (d) (e) (f) (g) (h) (i) (j) (k) (l) (m) (n) (o) (p)"),
   (0x1f120, "(q) (r) (s) (t) (u) (v) (w) (x) (y) (z) 〔s〕"), (0x1f12d, "cd wz"),
   (0x1f14a, "hv mv sd ss ppv wc"), (0x1f16a, "mc md mr"), (0x1f190, "dj"),
   (0x1f200, "ほか ココ"),
   (0x1f240, "〔本〕 〔三〕 〔二〕 〔安〕 〔点〕 〔打〕 〔盗〕 〔勝〕 〔敗〕")]

/-- The words of a text between its blanks. -/
def wordsOf : Text → List Text
  | [] => [[]]
  | c :: rest =>
    if c = ' ' then [] :: wordsOf rest
    else
      match wordsOf rest with
      | [] => [[c]]
      | word :: more => (c :: word) :: more

/-- The entry of the first row that reaches a number. -/
def entryOf? (entries : String → List Text) (rows : List (Nat × String)) (n : Nat) :
    Option Text :=
  rows.findSome? fun (first, row) => if first ≤ n then (entries row)[n - first]? else none

/-- What a character is spelled as, if it has a spelling of its own. -/
def spelled? (c : Char) : Option Text :=
  (entryOf? (·.toList.map ([·])) letterRows c.toNat).or
    (entryOf? (wordsOf ·.toList) wordRows c.toNat)

end DelugeAssist
