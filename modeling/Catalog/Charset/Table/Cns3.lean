/-!
This module contains the characters of plane 3 of CNS 11643 in their rows of 94.
-/

namespace Catalog.Charset

def cns3 : Array String :=
  #["丨丶丿亅丅丄冂冖匸卩厶个亇义凢乆亏亼亾兦凣刄劜卄夂夊宀巛幺广廴彐彑彡阝𠀋乣乢亣内仅仏从仌冄円冗㓅凤刅办劝勽匀区㔹卆卝历厷㕕双㕛収圡㞢帀弌户戸攴攵无㸦玍亗仠㐲𠆩仧㐳仦㐴㚢㐱㒰囘冋册写" ++
   "凥切刋㓜",
   "㘞匄匃匇匆匞卟卭厉厺叐㕥叶号叹㕤叴㘝㘦圤处夘夲夰头㚎奵㝊宂对尔㞋㞦㞤㞥㞧㠯㠲庁広弍归㣔忊忇戹㧅扏旧术歺氹㲺㲹氷汄汅玌疒癶邓邒䢳䦺両丠丢乨争亘仹仯㐻㐼仸伆伃仼仮伖㐹伨伜伇会仺众兊㒲兲" ++
   "再冴决冲",
   "㓇凨㐫刔刏刕刘动卉卋协㔻卐㕄压㕂厾㕜叒吖叿㕧吀㕦吅吓吕吆㘟団圵圶圱圲壮夅乔㚏夶㚐㚨㚤奺㚣妆㜽㝌宆当尘㞌尽屸㞨㞭㞯𡵆岀㠩师㠶㡱㡰㡯廵弎㢩㢪㣻忓忚㣼忛㦮戏扝扟执扗齐㫃旫旪㬰朷㭁朲朶欢毎" ++
   "㲌汘汑汷",
   "氼㲻汚𣲆汓灯灲灮灰㶡灳犱犲㺨玏㺪㺫䂖礼䇂肍肎䒓艻䒔赱边邖邚䦻两乱况亜佅佊伹伷㑃伲佂㑂佄佋㑄佀伵伱兑免児兎㒳㒷冝㓈况冸凬刣刧刦刟别删労劳㔘匥医却㕇㕆㕅㕫㕩呍㕲㕱吺㕬㕯呄呌吣吚吲呋吡㕳" ++
   "吴呉呐吢",
   "吿呑呚启㕶囩囲図囯园囬囦坈㘧坄圿圼坓坖㘰坟坃坘块㘩㘪㘯坆㘬圽㘭坂坔坕壱売声夋麦囱夽㚓妔妌㚭妜㚬㚫妟㚩妛㚮妉妚㚪斈㝎宍㝐対寿寽尫㞲岄岎岜㞵㞶岅巵帉㠹㠻帋㡲庒庐弃㢬弞彣㤈忧忾忦応忎㤃忼" ++
   "忟忬忶𢗗",
   "忲忰忹㤋戓㦯成戻戼抂㧎㧋㧌扸抋㧍択报抛抜抙抍抅抝扵㪀㪯㫓时㫕㫔㫗曵杛㭂杔杒㭄杘杄杊条㳆汿沑沞㳀汮汼沟汵㲾汖沢汹㳊没㳄沪沠㳂灹灷灾㶤灵灻牤㸩犻犼狇犹犾状㹠㹞玘㺭㺮㺬㽗疓皀㿝皃盀盁䀎䂗" ++
   "矴矵䄧竌",
   "竍糺肟肑肗肔䒕芆芌芑芕䒘虬䖝辵达过䢊迁邩邤䢵䢶䢷邨阧阦阫阳阴阩丽㐨亝侓侊㑍㑉佭侎侠侢価侟侣𠈉佲㑑侌兖兔具冐㓋㓊㓌凭凾刯𠛬刼刴刹効劵势单㔽卶卺厓㕈叁参叕咅㕸呟咓咉呹黾咏呩呭㕺咔呪咊㕷" ++
   "国囻囸㘡",
   "囼囶坥垁坣坧㘱坮坸坿㘳㘴壳奋奌㛁㚰㚴妭㚸姄㚼姂妰㚿㚵㚱㚽妿㚻姉妸妬㚳㚶㚺妷姗㚷孠㝀宖实宔実宝㝒尀尙㞐㞑屉届㞾岻峁㟀㟁㞹岹岞岴岺巶帓帒幷㡹庘㡻庙庝廸㢠廹㐩弆弡㢮弥录㣍㣋㣙径徃怰怇㤌怶" ++
   "㤁㤅㤂忩",
   "怽怈㤓㤑抺抲㧤抷拤抧㧚㧕㧓拕拡拝抦拁担拀拟拠拞㧖斉㪴斦斺㫙旿㫘昗昘昁旾㬳朌㭈杫枖枂枊㭇枣㭋枢枏㭊柹枀欦欧歨歩㱚殁殴毑㲎㲴氜㳍㳌㳏㳋㳎沗汬泟㳒泪㳑泤泘沲泎泈㶦炋炈炐炏㶪炇炉炍炁㶨炌㸓" ++
   "㸚牀㸝㸞",
   "牥牦牨㹥㹦狍狓狛㹤狏玧玣玞㺰环㺳㺵玪玜㼙畂畄画畁𢌿疛疞㽵秄秃秆䄫䄬秇䄭秊𥤮䇃竏籶籴糿糼㒺䍐罙肨䏓䏐肰䏜肳䏒肤肶肧肬䏛肦卧舎苄茾芜䒥䒟䒚䒜䒢芪䒛苉䒣䒝芦芲䖈䘚䢍迌这迊还迏邷䢸邭邹阷䧃" ++
   "陁阾隶靑",
   "靣乗乹亲亰亯亱俒俕㑝侾侸侰侱俈㑚㑗俆俌俥俣侴兪㒸冟㓂凁㓏凂凃剅剈㓧㓩剏䑒㓨勅勊勄匧単卽㕊叝叜叚叙咹㖀哐咴哊㖇咣哚咤㖄咲咞咟咵㖂㖁响㖃哌㘢圀垬垑垎垍垒垡垐垦垨㘻垜垖垧㘺㘸㘹㘶壵㚅変夈" ++
   "㱔奒㚚㛄",
   "姟㛅姫姯姰姕娍娄姹娂姸姢姙姧孪㝔㝕宫㝖尛尯㞖昼㞕㞔㟄峑峜峦峡峍岍峢峝峥巻巺帞㡄庡㡽㡾廼廻弯㢲㢶彦形㣜㣟恜㤨恎恑㤙㤐怣怱恼恒㤬恠恊恡㤛战㧂㧯㧣㧥㧪㧦㧮挟挗拪挡挄挅㧨攱敄敀㪅敂斾㫠昩昛" ++
   "㫝昣昬昚",
   "昰昻昞昷昸㫡朎㭑㭕柨柖㭒柇枼桒枿柕柾荣査柺枱栁栅栀柗䂞欪歫㱒㱞㱠㱟毡㲒㳖洣泿洔洅洓洆洡㳞洕沯泴洂浅汧洦㳙浄㳝洤炥㶬炣㶰炢炻炠炪㶯㶮炨炶炲炧㶭㶫点爮㸖爼㸰牭㸳㸱狧狭㹮独狥狢㺱珄玽珏珉" ++
   "珁珐㺷珎",
   "瓭瓫㼚瓯畉畐畆畊㽙畍疦㽺㽸㽻疨㿞㿬盇盿䀞盽矦砊䂛砄砋砇䂝砕砈䃽秓秔秐秗穼䆔䆓穽窃窂䇆竔竕竓竐竒竾竼籷籼类䊸紀䊷䊹䍓𥄳䍒䍑羏胓䏣胋胒䏢脉胢胟胆䑣舤苷苘苝䒪䒦苸苼䒨䒩苩䒫苮䒬苐茎苢茋苽" ++
   "兹虶䖞虸",
   "䖟䖠虵虽䘏衂衦䘜覌訅䚮訆䚰貟䟔迱迧迩迯郂邼䢻郆郀䣁䣂郍郉䢾郄䣥閁䧆鳬倲俹倝俿倄俰倃䘮倂俼俲値倈倶倮㑥倐倸倹俽偖俻冣冦冡㓑㓐凇凉剠剤剙剥剧剗剣㓮剓㓯勏㔞勎勐勑勌㕋㕍㕖唍哴㖒唓哯哵哹唂" ++
   "唀㖓㖐唘",
   "哰哶哶㖗唙㘣圅埉㘿垷埍㙃㙂㙄垾垻㙅埛埈埄埅埑埊埀㛙㛞娡娪㛏娝㛍娋㛝㛎㛓㛖娢㛜㛑娤㛐娔娱㛕娯娚娒㛔㛛娦𡜮㝃宼宻宷尅将屒屓㟍㟑峺峫㟊峳峵峩峯㟔帪帰帮帬帯庯庩㢆廽弲徎従徏恏悙㤳恾㤷恴恋恳" ++
   "恵㤪㤟恖",
   "悩悋悦㤹悓悮悞悧扅㧲㧸挮㧷捒挰捛㧴挙挛㧱挱捝挷挵捓㧵捜挿敋㪇䍩斋㪶斚晐晆晎晀㫩晋晈㫫晠晄晍㬴样栤㭢㭜栛栶㭠栬栙桖桇栾栞桒栕栢栧桙桘桕栰栣欮欫欰歬㱡残㱿毩毪毥浫㳥㳦浳浗㳩㳳浝浖涏浛洜" ++
   "涚涛涙㳮",
   "涁浱㳭㳬浲浜涖烄烛烌烐烣烟㶳烖烮烕㶵㸧㸵㸶牺㹱狵猂㺸㻂珢珬珕珹珟珦㻈㻀㻁㻄珤珡瓳㼟㼜㼝㽍畖畕畘畗畞痃㾇㾂疴㽽疱㿟䀀盋盌眪䀠眖眏䀢䀤眿眫眎眤䀡眡眘矝䂤䂥砤砶䄁祘祙䄃祢秚秙䄷秡秥秨秛䄸" ++
   "秢称䆙䆘",
   "䆗䇉竚竝䇇竛竜䇙䇛笍笋笔粎粆䉻粇粃粋䉼䊽䊼䋃紤䋁䊿䋄紥罢羓羙羗䍾䍿翄翆耊䎴䎳聀耼耻胶胿胮脄脃脇脃䏦胷䑙䑚舭䑤舧舩茟荗䒴䒹䒷䒵茡䓁䒱茘荘䒳䒺䖌䖋䖍蚄蚟蚛蚉蚦蚒蚏蚠衏衸衺衮衻袄衳䙸䙷訍" ++
   "訋訙䚲䟖",
   "軐䡅䢒䢕迹选逈䣆郞酑䣧䣨釛釟釞釖釠閅陠陙䧋陖䧍䧱隽䬢㐡偂偙㑯偄偦偒偔偱偐偻偼偘㑰㑤偹偬偸冨凑减剨剶勔㔭厠叄㕘啘啌啨㖦啉㖤㖟啝唩𠶮啔啓㖣啚㖠唺唿唫埪㙊埯㙇㙈埝埾型埞埦㙉埨埿堃壷梦够㚞" ++
   "奛奝奞𡘷",
   "㛨娫㛬娻㛭㛦婡娺婮婋婫㛫㛧婅婎婨娽婱娿婯婵㛩婳娬婙婔婏婣㝜㝝寈㝠寃㝛屛屡㞙崡崊崉㟘崬崈㟚㟝崪崕㟠崐崓㟥崯崘㟗巣帹帵帺帲㡎㢌㢈庶庻庺弴弹㣎徚㣥㣦悘㤲惐㥀㥇㥌惗悪㤵悡悤㤰惮㥃惧㥍惨惞㦷" ++
   "㧳捾掋㨂",
   "㨋捹掆掓㨄捳捪拼捬㨈捿㧼掲掺㧿㨀捦捴㪋敚㪍敎敍斍斎断㫊旇旊㫋旉旣旣晗㫳晣晧朚朙朖㬶㭪梞梶梘桳㭫梚梎梷棛梥桬棁梄㭱㭨梕桺梙㭲梸梹桰㰮欵㱢殐殻毭㲘㲵㳫淁淃淎㳻㳸涭渄㳵涹㴈淧洴済渆㴊渊涰" ++
   "㴆淸渌㳽",
   "涱㳺渂渇渉渁渗淿渒㶺㶹焃焇焁烵烱焈烲焏㶻烾㸘㹀㸽猚猐猎琂珳㻍㻉珻㻋㻊㻎甛産畡畨㽞畧痓㾑㾌皐㿡䀂盕盗盖眰䀫眦䀪着㸔眞䂭䂣䂫硇䂯硋硑硏硂硆䄄祮祬秲䅄秱秵秳秹䄽䅇䆜窚窓窑竡䇠䇤笡笜笖笗笶" ++
   "笟䊀粓粙",
   "粚粜䋊絉䋔紴紷䋒紭䋋経䋎䋓絈䍄䍈缻䍅䎁䎆䎅耈耚䎣耝䎵聉聅聄粛䏺䏹脪脮䏻䏲脱䏯脚脴脗䑛䑦䓎茝荱莄莀荲莡㖴荹莑䓈莟莭䓑䓅茣䓒莅莜获虘虚䖏虗蚲䖧蚮䖥䖤䘑衅袜袔袣袏袥袩袦袊袠袐覒覑覔䚵訦訲" ++
   "訨䚴䚽訜",
   "䚻訫訠䚹訩䛂䚾䚺訡谺㪷豛豘豼䝘貦貮貭赥䞛赾䞜赼赿赺趽䟚䟞跀趻躭躯軖䡍䡆䡇䡋䡌軙䡈䢙递逎逥䢛逓郮䣎邫郷䣫酙酔釲釰釥釶䤜䦌閇䧑陚䧖䧓陮䧔䧐䧕陹䨋飡飦䯆黄黒亀㐤亁傏傗傈傉㑴㑺傁兠𠕤㓃幂凓" ++
   "㓔㓕凒凖",
   "剳㓻剰㓷㔲卿厨厦叅喗嗞㖺㖿喖喴㗇喅㖷喛喠㖹啙㗃喆㖽㗐喯啺㗁㖾㗍喞㗋喩圏圎堚㙏堟㙓堼堘堾堦㙕堺𡍤堢㙑壻奣奤㚟媨媣媂媈媡媅媘㛾媙㛻媉媁媖媀㛱㛵媑㛯㜄㜃㛴嫏㛳㜂㛷㛺㛽㛮媇媠㛰婹㛲媆媫媪媤" ++
   "媍婾㝄寕",
   "㝢㝷㷉尞屟属嵄崾㟨嵈崜㟯嵛嵍㟦㟭嵗㟧嵓嵏㟫崻嵆㠭㡕幆幇㡓幈廀庽庿㢐弑㢾弾弻㢽强㣏㣐㣬徧㥋惪㥈愇愢愌㥕㥑悳惖惒㥎惣惥惩㥫㥞愑惽㥠㥧愞愠愡戞㦸揢揞揦㨔㨏㨇㨓揸㨗揾揁掿揷揑敟敠敡㪚㪸旑㫷" ++
   "㫸晽晫晿",
   "㫽㫵晳暁晭晩㫺㬸朞棭㮇㮀㮈㭹椃㭼棾棥椞椂㮃㮅椉棊椀栟椁椘棢棏㭻椮棅棿㮆検棃㰴歯㱕歮㱨殾㲜毴氭㳼涶湵渞㴚渘㴗湈㴛湏㴓湂湪湰淾㴅㴇湭㴜湻湾湙㴑湗㴖満湐㴕温湶渪湌焪㷋焵焬焷焝㷅㷂焸㷍焴焫" ++
   "焳焧焤㷊",
   "焭爲犃犂犇猆猤猸猪猬猫㺃猯猨琗㻖㻕琙琸㻑琟琔琼珷琜琕琘琹瓹甤甤㽒㽟畮畭畱疎㾕痥㾝㾘㾞㾖皔皳䀃盙䀯睈睉睃䀱䀳睂矟䂴硣硶䂰硟硦祦祱䄈䄇祶禄祵秿稇䅎税稉䅐䅒䆡䆣䆥䇌竧竢筕䇯䇪筃筗筬筂筓䇭" ++
   "筁䊅䊄粧",
   "粠粦粤絴䋛絙䋙絠絗絬絾絤䋗絚絝䋚䋞䋘絶絍絵䋕翓翖䎜䎝聠聎腅脻䏾腈腂腉腀脔腁䐇臯臶舃䑪菭䓧菚萘菒萈䓢萀䓟䓡䓥萗荆萔菓萅萟萂萖菍菦䖑虝蛕蛡䖴䖰䖵䖮蛮衇衆䘭䘬袻䘫袿袴䘩袵䙿覚詃䛉䛋詚䛅䛆" ++
   "䛊訵訸詂",
   "詉詝詋訽䛒䛐䜭䜵豠豞豿豾貃䝬貱趇䞝䞠趈趃䞢䞟趆趋趂跊跒䟫䟢跔跉躰䠶䠲䡐軲軤軳軪䡏軽䡒辝逫逪䢞逨逩逬䢠䢜逺逰逷逻䣑鄊䣯䣰䣱釾鈠䤝鈋䤟鈘鈢䤞鈛鈈䤠鈎鈓䦎䦑閕𨳝䦐䧗隌陻陿隁䧙隂䧴䧶㕠䧵䧳" ++
   "雮雭䨌雬",
   "靟靯䩑靭䪦䪧䪨䬧䬤䬥飰䬪䭴䯇骩䯧䯭髠亷㐮㑻僌傼㑼傪傹㑽傫僃働兾剾剹㓽剷勡勠勧厀厫厪厩叠嗪㗚嗗㗖㗛嗁圕㙛塬㙜塜塐塡塪塩塖塠塦塟夣奦奨㜆㜋嫎㜍嫅嫃㜊㜓嫐㜐㜒㜉㜈㜑㜏孴孶寜寗寚寛㝧尠嵭嵦" ++
   "㟶嵤嵮嵮",
   "嵠彂彚彮㥤㥬愰愺愪慃愙愱㥭愽㥺㥵㨍搈搲搸㨞搱㨛搙㨪搑㨟㨢搩搝㨥㨧㨩搼㨤摆摇㨨㨦携搇㨣敫㪟数敭㪱旤暓㬃㬇㬌㬆暏㬄㬉暒㬅暎㬈楆㮖㮜㮟㮛㮘㮙㮔椱㮍㮣椾㮓楼楃㮒楳楂楕㮎㮌榅楍楐楇楧椶楤楡㮚" ++
   "楽歄歀歱",
   "歳殜㱪㱭㲄毁㲠毺氱氲㴝㴦溸溨㴳溑溻㴸溚㴰㴨溩㴧㴪溵湬滨㴱滝滚滦溬㴴㴮㴻滙滣滩滛㴩煯㷒㷘煈㷏煊煫㷙煏煗煴㷎㷓㷐煅煑煭㮡牑牐牎㹇獁㺋献獆㻔琧㻞瑈瑓琽㻟瑝瑖㻗琞瑇瑃瑘瑉㻡瑌瑅琾㼯甁甞㽢㽣" ++
   "畺痮瘂皗",
   "皘㿢䀄䁃睝睤睓睘碂碐碊䂾硺硽䂺碋硸䂼硎碍碈碒碁祾禃䄍䄎䄑禀䄏䄒䅕稏䅙䅛稝䅗窡窤䇎竩竪䇾筢筫䇼筞䇵筹䇹䇺筯筨䊈䊉粮䊊䊇䊋粰䋦綐䋭綊䋥綋継綕䋠綇絸綗綉綘䋡䍛䍜羣䎏䎋䎍翝聗䎹腣腪腬䐏䐙䐓" ++
   "腝腵䐘腟",
   "䐖腽腭䑓辞艁葏蒄䓶葿䓵葈萪葻葲葤萮葜葓䓷葁蓈䓰葢蒀萾蒃葱䓹葊葕葘䖒䖕䖖蛼蛽蜕䖹蜖蛿䖽䖸䘒衘裏裠䚀䚁䚚䚘觧詪誀䛔詯詥䛚詸詽誈䛖䛛詤詾䛜詧豣貈䝱賍䝲賉䞨跭䟰趼䟱䟽䠸䠷䠹躱䡕䡓輄辞辠遃遆" ++
   "遈遅遀遌",
   "䣕䢽鄌鄓鄕䣵酫酧鉝鉕鈵䤡鉙鈯鈼銏鉜鉪鉢鉟鉫鉮鈻鉄鉁閚䦒閙䧞䧛䧚随䧟隖䧹䧸䧺雴雼䨎靕䩃靹䩖䩓䪞韮韵䪩頋䫺飳䬱䬰飷飿飵䬲飬飱䬩䬮馚䭶髢鬽魝鳨䲥鳫鳯鳮麁鼔僐僙僜僘㒌僡僫㒋㒉僴僢僞㒍㒆㓗凴" ++
   "㔄㔇㔃勭",
   "勪㔢匲㕑厮厰㕡嗻嘃嘋㗩嘇㗥嗸㗤嘨嘞㗣嘘嘑噑嘅圗墒㙥墌㙣塸墄塳墭増墕塷塲墖墍夐㚌奬㜚嫧㜕嫤㜠㜡嫯嘦㜜㜛嫰嵻㟾嶃㠄㠁嶋嶌㠀嵸幒㡭㢓廐廏㢡徳徴㥶㥹㥲慻㦃慯憁愼慂愸愳慈慠慩慽憆戬戨㨸摌㨰摗" ++
   "摼㨴㨺摕",
   "摢摱摪摖搻撁㨵摏摾摤㨿㩀㨲㨱㨶敱𣂺㬏暥暚暜㬐暦㬍暤榏槅槈榒榲㮩㮴㮬槣槀槖槑榟榢槒㮸㮮𣗳槡槕榝㮳㮺榘㰿歴殡㴼滰滳㵂㵀漛漌漝漴漨漗㴾潄潂漄漑滺潊熑熎㷡熋熍煿熌煾煼熃㷦熈㷠㸕犔㺓獕獓獏獔" ++
   "瑬瑥瑦瑡",
   "瑫瑨瑶㻧瑠𤨏瑴甆瘎㾭瘇㾮㿣皹㿵皷盢䀆睴睷睶睵䁏睸睱䁔睺煛睻碦碮碸䃋䃣䃉碱碯䄓禉禇䄕䅡稩䅦稪䅤稭稬䅠稲䅣竬竰箁箞箃䈊箒䈄箣箟箓䈇箆粸粷䊍䊏䊐䊒䋬緈綶絣緑䋧綨綫䋲綳緍䋮総綤䋯䍌罁罯罱䍞" ++
   "䍟䍶䍴䍲",
   "䎐耣聛䎾聡聟膁䐦䐥膄舓䑴艊艌䓽䔅䔁蒽蒕䔉蒒蓃䔌蒖蒥蒵蒳蒣蓤蓘蓕䔍蒷蒭蓚蒓蜶䗀䗅䗉蜽蜫蝇蜹䗕蝅蜝䙁裿裪䘳裵䘺褀裭褃裩䙀䙂觪䛨誛誎誢䛤誜誔誐誩説䛧誟䛦䛡誝䜹豧䝜䝵賐賖賔趘趚趗䞮䞰䟺踋踈" ++
   "踁躴躳䡛",
   "辡辢䢥遚䢢遡遟䣛䣚鄥酻酶酼䤤銉鋶銱銭銒銁銄䤦銮銐銞䦘䦖䦚関閧䦗䧡䧠䧣䧢隠隝隟雐䧻雑䨒䨔静䩅靤䩜䩝䪸頙䪺頔頕頚䬃䬵䬶䬹餆䬭飸餁䭺馾馼馷馶駀䭸馸䭻䭼䭾駄䭽馿䯉髚髤髩髨髪髥䯳鬦䰚䰙魀䰟䲦" ++
   "䲧䲨䲫䲩",
   "䴮麽䵞㒕㒓㒒儎㒖僷㒗僼儍儁凚凙凛劆劎勮匳厱㗵噇嘭噔㗪噋噒嘱噄噖噐嘫㗳噍嘷噏墢墷㙩墲㙫墪墵墰㙬墴墤墧㙨夦嫾㜨嬄㜦嫼㜥嬆嬊嫺嬍嬀嬎㝫㠏㠈嶑㠌嶏嶐嶘嶤嶛嶣嶖巤幚㡠㡢幞㢘徸慗慜憦憕憈㦊憣憏" ++
   "㦄慤㥿慙",
   "慸㦂憅憇憞㦖㦉憘憜㦍㦼戯撀撛撎撍撔擆㩄撨撃㨼撹撆撴撯撑㩎撪撡撧暶暳㬔暼暬㬕暭樎㯎樜樚㯠㯂樋㮿槯樌槰樢㯄様㯏樒槺㯈横㯌樐㯍㯇権槹槪樬樤䲷槩歒歏歓㱃㲶漐潥潵㵑㵊㵍㵖濐㵓潜漽潱㵙澑漋潹澁" ++
   "澏㵎潙潴",
   "㷮熮㷬熣熭㷫㷯熫熦熢㷭勲牗牕犙獋瑺㻲㻯㻱璌璄㻭㻰璂璓瑻㻮甉䰛㽐㽦㚄㾸㿶瞊䁗瞐䁞磆磓磀磒磇磂䄙禟禝禞䅰穁䅮稸稺穂䅲䅶稾窰箮箳䈒䈟箿䈑䈖篍䈙箲䈤䈔䈥䊕䊖䊓䊔糄糍糂糆糃糉糇䊠緸䋻緭緢䋼䌀" ++
   "䋸緜縂縁",
   "䋹緖䌄緤緾䌃縀緼緽䋳緵緿䋺緫緥罸羮翧䎿聥聪聦聨聫膔膡膒膖膓䑹䔐蔁䔔蓸䔎蓵䔚蔄䔙䔡䔣䔟蔛蔃蔳蔴蓭䔥䔫蔵䔖蔅䔢䔛䗎䗏蝽䗋䗑䗌蝱䘗衜裦褏褛䙑覩覥觮誱䛭諌諎䛴誷䛱誵諩誴䛸誳諁誯諊諐䜯䝞䝝貎" ++
   "䝶䝷賩賛",
   "䝾賫趤䞶趢趝䞳䟼䠃䠀踪踨䠊䠂躸躶躹躷輢輫輧輙辤䢇辳䢦遱遪䢩䣞醈醌銿銸銾鋜鋥䤮䤭鋔鋖䤰鋚鋭鋳鋛䤫銹鋢鋫閯䦞閲閳䦟䧥䧤隣隥䧽䧼䨗䨙霊䨘鞇鞉鞌韯頪頢䪿頟䬼餙䭫駊駚䮃䮁䮀駞駈駠䯊骶骵䯎髴䯶" ++
   "魫魩魲魣",
   "䰹鴍䲮鴁鴌䲵鳸䲳䲴鳾鴂麄䴢麫麪儝儖㒙儫儞儛劐劔匔𠮉㘂噧㘁噻㚡噟噡㗽㙳㙴㙰㙶㙵㙲壃壊墻壀壄夁嬟嬘嬑嬕㜩嬒嬜㜪嬢孹嶦㠖嶳嶫廪㢙彛㣓㣵憷懎憹憽懏懀憙憗㦔憻懐懄戱㩖擓擀㩙㩘㩕㩒擜擑擈㩗擕曃" ++
   "㬛㬜暿曅",
   "㬙曍曁朆㬿朤橣橂橒㯛橃樳㯢橬橗㯗橌橮㯞㯥㯤㯦㯖樷㯟橱橊樶㯜橓㯚橅橰㯓㯐橜歘歗㲆㲇㲭㲷㵘㵪澻㵢㵡澾㵩㵬㵥澵濓澟㵦澷濵熷㷵熻㷴燑㷷熺㷸熶燌㷻㷼燓璛㻵㻸璖璢璝甊甎㼼疁瘬瘷瘶瘻㿅皡䁢䁣瞘䁧" ++
   "瞖䁦䃙䃛",
   "磖磫䃘磜䄛禥禩頴穓穅䅹穏䅽窽窻竱䈬䈷篬篭䈰䊚糓䨀糡䌅縙䌇䌉䌊縧縦䍹䏂聮膯䐸䐷膭䐡膪舘䑞䔽䔷䕀蕯蕌䔝蕂䔳蕜蕰蕟䔵蕚蕋蔿螊䗘螋螡螎䗜䗞螙衞衟褤覧諪諽諹諣諥䛺䛻諬䜽䜻䜿䝟賲䝿賯䞄趦䞼䠔䠏" ++
   "踻蹃䠎踲",
   "輱輰䡠輭輼辧辥䢫䢬䢪鄷醕醎䤄醖䤈鍅錊䤳䤴鋽錗錜錇錱録錬錰錃錅䦢闂䦤閸䦥闁䦧䦦䧧隫隷䧿䧾霕霔䨝䨜霌霗䩧鞓䪔韒䫅䫈頶頱頳頼頮頺䫉頽䫇颵餢餣餠餜餝䭬馠䮊駯駨駫䮈䮇䮆駡駦䯏䯐髸髵䰜䰣鮃鮔鮄" ++
   "䱉鮋鮏䱃",
   "鮌䱈鮉䱇鮎䱆䰿䱄鴤鴏䲾鴓鴊䳂䲺䲼䳆鴪鴚䳈鴧鴖鴡䴣麅麬黆黅黗齓㒝儨儧凟㔤匵厳㘇嚊噽嚉㙹壍壐㙸嬫嬳嬩嬵嬱嬷尶嶾㠙嶹㠜嶻㠘懢懛懝懜懚懞懙㦽㩝擟㩚㩞擡㩜擮㩛斵曔曕㬡曐曑曎曗㬠㬲橽檊㯲檧㯵檙" ++
   "檂檈㯮㯬",
   "檆㯪檘檝㯭㯳檏㯶檪㱈歝㱉氊㵵濗濖濥㵯㵻㵳濙濚濪㵰濶𤀹㵸燣㷾燩㸀燫燯燳燪㸁爵㹕㹖㺝獱㻹璮㻿璳㻽璬㽃㽁疃癅癎癄皣皥瞦瞤䁯瞩瞯䂊䃥䃦磰磸磱䅿穉䆵䆶䆻竂竲竳篺䉀篶篼簘簈簒䊝䊜糛糚䌏䌑䌍縬繍" ++
   "䌔䌓罆翶",
   "耫聴膸臈䒂䒃䕍薒薓䕏蕿薫薗䕌䕑薬䗮䗨䳋蟎䗫蟍䗢䗦蟁螱蟇䗬襀䙙褿褹䙝襃䙗䙛䙖覫䛾謟謉謌䜀䜁豀䝂貖䝠賶賷䠝蹆蹏䠾䡩䡥輽轁鍦鍸鍝鍩鍴鍽鍮鍲鍳鍢鍈鍓鍟鍨䤸鍿鍫䦮闄䦭隯隭隲䨂䨟霚霛䨢䨠霣䩬鞛" ++
   "鞟䩨䩭䩮",
   "䪠䫎䫐䫑䫋顀䫒顇䫓颷䬠䭎䭋䭲䭰馢䮒䮏騀駳䮐𩤷駵䯙䯕骽鬀鬂䯺鬴魉鮟䱋鮣鯍鮙鮝䳐䳎鴹䳏鵄䳄䳌鴵䳒䴵麯㸃儯㒞㒯龎㘌嚟嚛嚞嚖嚔嚠㙼嬻㜰㜱嬺巁彍彝懳㦡㦞㩨㩡擶擥擪擧攅㩥擹㩦㩪㪫檫櫭檲檰檵檾櫁" ++
   "櫈㯹櫀檼",
   "檱櫄檿㱘㲊瀈瀃濽瀐瀂瀓㸄燺爀璹璼㼂癛癑癏盫瞸䁹瞹矁矀瞾礋䃫礇礊礈䃩礍礆礕禯䄠䄡䆁竵䉍䉙簮䉘簛𥳑簚簤䊥䊩糦糣䌚䌙繝繏繦繛罇羴䎖䎘䎗翺耮𦗟䏈臎䑃䑅舙䕒䕗藌薲䕕薻藁䕖䕘䗲蟩蟮蟰蟖蠎蟚襈襊" ++
   "襎襍覱覰",
   "観䜇謸謲䜈謭䜊謴䌛謩豴䝡䝢贃䟂䟆趩蹘䠞䠥躿軁轊辬䢰邉鄽鄼醩鎠䤽鎐䤾鎓鎋鎭鎻鎸䥆䥅鎜闘闗䨃䨦䨧靝鞩韚䪘䪭䫕䫚顔䫙顕顋䫝頿颹䬕䬖䬗䬡餸餶饀䭌餻餹馤䮖䮘騈騌䮛騐䯿鬇䰥鯒䱏鯂鮻鯌鯋䱖䱔鵍鵣" ++
   "鵎䳘鵐鵕",
   "䳗鵞䴦麐麲麱䴸黊鼂鼧鼦䶊嚯壠壜㜴嬹㜵嬾孼寳寳㞡屫巄攋攈攊㩬㩭旜㬩㬪曡曟櫎櫔櫣櫗櫢㰀㰈㰆㰅櫘櫕櫒㲱㶈瀞瀬瀥濳爄爈爕㸉瓄瓉瓇瓈皩矆矅礘礚礠䄢穦穤穪䇕䉡䉝䉢䉏䉠簵簴䊪䌢繬䌡繮繱䑆臔臖舚艢" ++
   "艥艶藛藖",
   "䕢藧䕠䕤藴虩蟽蟕蠇䗶蠏蟸蠁䘙覇䚑覵觵䜍謿譃譌䝥贋蹫蹨蹰蹵蹷䠿軃䥋鏩鏪鏋鏅鏆䥈鏭鏓䥒鏥䥊䥑鏛鏫鏠鏁䥐䥌闝䧮䨄䨆䨭䨮䨯䩻䩸䩷鞲鞴鞱鞵韲䪢䪡䫣顖䬚䬙䭗饄䮞騦騟騘騡騗䯝鬉䰅䰨鯅鯟䱠鯣䱦鯩鯮" ++
   "䱧䱨鵦鵺",
   "䳞鵮鶑鶃鵶鵾鵭䳡麕黣䵩䵷鼃鼄鼅鼗㒦儶㒥匶㘔孂㜶㜸孄孆孾巊巈巌廰㩰斅曥曧㬫㰑㰊櫴㰍櫩㰖㰐㰉㰎㱺瀽㶌瀶㶑爖㸊爒爏爗爑爋㸈㸋瓍瓐瓌瓎瓑㼇疉䃲穯籋籄籕䊮䌤䌦䌧繿譱䎙耯聺聻聼䕟䕪䕱藼蘐蘂䕬䕯" ++
   "藮蘃䕨蘍",
   "蘓蘈蘏蠘蠒䘁䙨襧襥覻譩譢䜓譮䜖譡䜘譤譍豑䞉䟈躃軆䢄鐟䥔鐄鐗鐈鐅䥖鏳鐞鐂鐚鐛鐧鐜䥚隵䨅䨇霳䨱霴霱鞸鞺䪣韼䫫䬜飃䭚饍䭛騯䮦䮪䮥髉䯡髈髄鬪鬸魐䰪鰊鯻鰄鯼鯾䱲䱯䱳鰂鯶鰛鯹鰕鰐鯿鰀鰌䱫䳦鶕鶥" ++
   "䳩䳬䳨䳰",
   "麘黁䶌齚兤嚻㘕壦孉寷㝱㠦巐㣆忂㦨攑㩳櫿櫾櫽㰕欁㶘㶗灋灍灇瓓癨癧㿗䂀矑礰礲礮䆈龝竉竈䉩籖籑䉫䌩䌨纅纉纎纄䑟艪蘫蘯蘨䕴蘖蘕蘝蠚䘂䙪䚔覼譵譼䞊贑贒轜醻䥤鏴䥞䥡鐭䥥䥦雤霷霶靧鞾鞽韢顨顦飈飊" ++
   "飇飜䭟饏",
   "馩騼䮯騻髎䰍鬔魓䱼鰮䱺鰟䱶䱹䱽䱷鶰鶽䳶䳱鶮鷄鹻䀋䴩麞䵯鼅䶚齩龡囇圝孊巓㡩彲戂㦫戵攧攞攟㬬㬭欇欆㰗㶚灔爜爠竸䉮籝籘䌬纒罎䏊䕸䘆蠧䘇讁讃䜠豄䝓䟎䡺䡹鑂鑍鑔鑎䥫鑃䥧䥭霼靀韀䪅䪰䫳䭣饚驑䮶" ++
   "髝䲂䱿鰸",
   "䲆鱅鰺䲄鰵䳼䳽䳺黱䶇龓劚㘚㘙虁巗㩵攨㰚㰛㰙灓灙㶜爡㸐癯礷禵籢籞糵䕻䕼蘽䘈蠭覉讍讇讐贚躙䡁䣣䥲鑟䥳䥨鑖鑡鑛鑚鑜鑥䨵靁䪈䪝顮顬顭䉵馪驜驘髞䲏鱏鱑䲎鱓䴅䴄䳿鷼鼹䶞儾㕔囒㚁孏欔䃺穲穳䌲䙰䙮" ++
   "讑贛䡼醿",
   "䥵鑬䥴䥷雦靅䨷韈韤饝䮺鬡䰑鬬魗䲒䲙鱝鱡鱥鸈䴊䴪䴫䵄䵹齅㒪㝈戅曯欛欝爥爤籭䊴虂虉䘍襸覊讗䝔貛贜䠰躢䨉䨸䨶䪋䫷䭦䮽䰞鱬䲖鱯䴍鸎䵳鼈鼝龣㜻㜼彠欜㶠䃻 糳䖁讛躧釄䥸鑺䪍䭳驡驣髗鱶䶦龥㦭灧㸑" ++
   "犫虊襽讝",
   "豓轥鑻䨹飍飝䮿鬰鸖䴏䶧䶵㿜䠱雧鸘麢䶨齼䄥纞钄䯁鸜䆐籱韊䚖䡿䴐麣䨊鱻龗䴒䨺靐䨻",
   "",
   "                                       佦佨俧倿 傦儏刾匤卥厛兿哋啳啱啫嗴嘢嘠嚒嚺嚑嚰坙垊堏堒堓塇墛夀奍嫑嫓孧屗屷峕嵵嶎嶥嶶嶿幥廍廭徔徚徺愥慐" ++
   "抣捠捤掶",
   "搃撶攚稥尡曢朂枤枬栐栆桞桚椬椩樭橷橺櫊櫦櫵欍欎毜毝毶氞汣涥渏溊溄溋湼潌潈潉澝澙濸瀮瀭灜秌炿烪烥焑焒焿焹焻焽煷煵煶煱熖熓熴燝燞爎夑爘獇獈珯琒琻璤璍璴癳癷皼砙砛砽硓硔硘碷磘磮礢祍禆禙禣" ++
   "禼窧笷筙",
   "篐簯簲籂籎籨粩糭緐縇緓繤罀 聁聣肻朑朥艈茐荢茒萡萞蓢蓞蓡蕳藔藵蘷虅虲蝊螩螥蟵蠴衐袇襔覄謃豒賘贌贘趰躼軕辪邜 酜鈫鈡鉳鋴鋵錿鍂鎆鎾鎼鎽鏱鏲鏯鐢鐣鐤鑧鑦閗闎闧霻靍飤饂鬝鮘 鵉摉幱庅懓餎" ++
   "耂砞",
   "唨啲喺嗰嗮嚸嚹囄聓銰"]

end Catalog.Charset
