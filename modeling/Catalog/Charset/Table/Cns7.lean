/-!
This module contains the characters of plane 7 of CNS 11643 in their rows of 94.
-/

namespace Catalog.Charset

def cns7 : Array String :=
  #["𠁕𠆂𠆉𠆇𠎾𠎽𠏊𠏔𠎼𠏄𠏁𠏂𠏗𠍰𠎺𠏣𠎻𠒱𠒶𠒰𠕬𠘍𠘇𠟱𠟵𠟭𠟯𠟫𠟬𠟮𠠇𠧄𠨈𠪳𠪭𠪰𠬑𠆊𠾃𠽺𠾂𠽨𠽱𠾰𠾯㗶𠽬𠽯𠽢𠽥𠾁𠽿𠽤𠽳𠽮𠽧𠽴𠽽𠽸𠾅𠾪𠾈𠾦噑𠾊𠾄噕𡈤𡈢𡈣𡐲𡑛𡑏㙧𡐦𡐾𡑂𡑇𡐢𠚛𡑊𡐟𡑉𡐫𡐳墬𡐪𡐨𡔽𡔼" ++
   "𡖿𡙹𡚀𡙼",
   "𡙺𡙸𡢂𡡜𡡚𡡋𡡼𡡿𡠟𡢉𡢋𡡗𡡾𡡽𡡓𡪟𡪼𡪥𡪆𡫜𡪤𡪶𡪢𡪴𡭈𡭆𡮧𡰔𡰒𡰑𡳡𡳐𡴦𡴨𡴩𡼯𡼍𡼥𡼔𡼼𡼋𡼑𡼰𡼘𡼙𡼶𡼗𡼐𡼕𢀃𢀩𢁌𢄿𢄾𢄴𢅂𢄵𠟳𢇍𢇑𢇒𢊭𢊺𢋁𢊻𢊴𢊼𢍬𢎒𢐡𢐤𣼙𢒭𢒮𢒫𢒬𢕰𢕶𢕱𢕷慿𢟬𢠜𢟻𢟮𢣢𢟽𢠞𢠻𢡊" ++
   "憯㦒𢡽𢡖",
   "𢡄𢡋𢧺𢧨𢧸𢧿𢧷𢧶𢧾𢨇𢩝𢳔摩𢳈𢳅揅𢳉𢵍𢴠𢴶𢴵𢶈𢴥𢴡𢴦㩅𢴿𢴻𢴤𢵃𢵎𢵏𢵄𢵀𢵁𢴹𢴫𢻝𢻞𢿍𢿋𢿛𢿘𢿙𢿒𢿊𢿑𢿔𢿹𢿐𣁞𣁝𣂊𣄔𣊃𣊄𣊛𣊂𣉽𣉼𣊙𣉾𣊚𣊕𣉻𣊆𣍈𣎒𣖲𣙂𣙲𣘕𣘰𣙃𣙛𣘝𣙳𣘭㯉𣘡𣘜槪𣘩𣘞𣘳𣤐𣤎歔𣤍𣤑" ++
   "𣤒𣤗𣤉𣤏",
   "𣦘𣦔𣦖𣦙𣦕𣦗𣩐𣩒𣩍𣩗𣩓𣩖𣪸𣬒𣯱𣯰𣯮𣯯𣯥𣯫𣯧𣯲𣯦𣯷𣰉𣱫𣱪𣹹𣻍𣻯𣻤𣻣𣽬𣽧𣽢𣽘𣽩𣾫𣽗𣾭𣽔𣾮𣽶𣽉𣽅𣽏潮𣽐𣽽𣽄𣽦𣽈𣾣𣽑𣽓𣽞𣽠𣽇𣽞𣾅𣾬𣽭𣽵𣾨㵕𣽃𣽎𣽜𣽖𣽮𣽣𣽪𤍖𤌒𤍜𤍘𤍕𤍾𤎨𤌑𤍙𤍚𤍧𤍔𤍛𤏰𤔩𤔬𤔪𤔧" ++
   "𤕧𤕨𤖓𤖕",
   "𤖚𤗮𤗱𤗭𤗩𤛋𤛟𤛛𤠼𤡎𤡬𤡻𤡼𤢃𤡫𤡦𤡣𤢠𤢅𤡨𤢢𤧬㻨𤧧𤨐𤨘𤨺𤨚𤨸𤩁𤨛𤨔𤨜𤨝𤬒𤬍𤬇𤭾𤭿𠪹𤮀𤭺𤯳𤲹𤲻𤲺𤲽𤲷𤲿𤴡𤸺𤸽𤸶𤹉𤺁㾶𤸿𤹍𤸾㾽𤸰𤹏𤼷𤾘𤾙𥀑𥀍𥂈𥂊𥈜𥉕𥉖𥉢𥉗𥉂𥈐𥉍𥉚𥉦𥉆𢡾𥉏𦋹𥎇𥎄𥏴𥏵𥏲𥏷𥕅" ++
   "磌𥕉𥔵𥓽",
   "𥔰𥕃𥕆䃖𥔳𥛆福𥛔𧇘𥛠𠾧𥝄𠎘𥡔𥠾𥠵𥠺䅱𥠴𥠹𥡆𥡚𥡛𥠼𥧜𥧖𥧐𥪧𥪬𥪧𥪥𥯴𥰤𥯠𥯽𥯲𥯼𥰂𥯱𥯿𥯒𥯘𥯓𥯹築𥯭𥯷𥯰𥯗𥰉𥯵𥻂𥻅𥻏䊘𥻁𥻆𥻔𥻎𦂛𦂙𦂏𦂷𦂂𦂓𦂴𦃁𦂐𦂚𦂔𦂜𦂵縂緇𦂟𦂎𦂞𦈼𦉇𦉁𦋫𦋬𦋭𦋮𦋟𦋲𦌍𦌎𠆆𦎩" ++
   "𦎤𦎥𦑟𦑚",
   "𦑦𦑨𦑪𦑤𦑥𦓁𦓘𦓚𦓙𦔉𦖪𦖣𦖹𥧢𦖥𦖫𦘠𦞉𦞋𦟛𦟤𦟯𦟢𦟩𦟰𦟳𦟝𦠞𦤝𦥆𦥼𦦀𦦁𦦂𦦇𦦈𦦊𦦌𦧧𦧫𦧪𦩨𦩫𦩩𦩦𦩪𦩥𦫥𦫤𦫦𦴘𦸤𦹈𦸯𦹾𦶉𦸞𦹉𦸦𦸉𦸴𦸭𦹊𦸕蓳𦸳𦸨𦸧𦸠𦸫𦸩𦹪𦸋𦸎𦸜𦷿蔖𦸵𦸑𦹋𦹌𦸟𦸏𦸹𦹨𦸝𦸈𦸌𦸍𦹢" ++
   "𦺯𦸲𦸬𦹤",
   "𦸄𦸖𦹍𦸇𦺮𧇔𧇑𧇕𧇐𧍱𧍝𧍛𧍺蝫𧍿𧍹𧍧𧎞𧎔𧍤𧍞𧎁𧍚𧍗𧍼𧎘𧍦𧍾𧎂𧍨𧍟𧍣𧎗䗍𧍓𧍻𧍽𧍸𧐆𧗀𧗂𧗃𧛜𧛦𧛬𧛲𧛨𧛫𧛪𧛥𧛠𧛐𧛘𧛕𧛓𧛤𧛳𧛛𧜯𧟹𧡝𧡛𧡌𧡘𧡠𧡓𧡐𧤇𧤈𧣴𧣶𧤄𧣽𧤅𧨨𧩖𧩂𧩜𧨽𧨯𧨫𧩘𧩡𧨬𧩑𧩐𧨼𧨶䛶𧩠" ++
   "𧩛𧨮𧩀𧩟",
   "𧨦𧨭𧩞𧨻𧯯𧯳𧯮𧯭𧱚𧱢𧱛𧱟𧱞𧱤𧳠𧳡𧳥𧶥𧶛𧶟𧶜䝺𧶪𧶤𧶣𧹧𧼦𧼚䞸𧼜𧼕𧼛𧼘𧼞𧼥跰𨁻𨁵𨂓𨂏𨁼𨂛𨂈𨂑𨁾䠁𨂆𨉛𨉔𨌵𨍀𨌷𨌩𨌦𨌣𨌰𨌠𨌨𨌲𨌪𨌱𨌤𨍁𨍂𨍃𨌥𨌸𨐜𨐝𨐞𨓶𨖥𨖉𨖝𨖊𨖇𨖫𨖆𨖞𨖓𨖡𨖈𨖣𨖟𨖠𨛿𨜀𨜂𨛸𨛷" ++
   "𨜁𨞇𨞉𨝶",
   "𨝮𨝷𨞂𨞅𨞃𨞄𨡗𨡋𨡖𨡝𨡠𨡍𨡕𨡔𨡓𨡐𨡣𨡢𨤗𨤖𨤭𨧙𨦿䤯𨦲𨦬𨦰𨧏𨦸䤱𨧓𨦱𨦯𨧎𨦴𨦷𨧕䦜𨴸𨴨𨴿𨵀𨵁𨴳𨴫𨴮𨼑𨼘𨼗𨼙𨼖䧦𨼍𨼦𨽹𨿘𨿳𨿗𨿌𨿏𨿋𨿑𨿎𨿔𨿕𨿓𨿖𨿍𨿚𨿒𨿞𩃌𩂸𩂷𩃂𩃃𩇺𩇹𩈟𩈝𤎂𩊦𩊐𩊞𩊘𩊓𩊒𩊥𩊕𩎩" ++
   "𩎨𩎪𩎫𩎬",
   "𩐟𩐢𩒪𩒖𩒑𩒫𩒢𩒤𩒝𩒗𩑽𩒟𩒜𩒙𩒦𩒒𩒧𩗉𩗈𩗇𩗋𩙴𩛉䬸𩛒𩛛𩛫𩛩𩛯𩛮𩛹𩛞𩠖𩡅𩡿𩢘𩢟𩢆𩢐𩢚𩢝𩢍𩢜𩢠𩢧𩢏𩩁𩨵𩨷𩨰𩨺𩨶䯎𩫊𩬒𩬕𩬢𩬓𩬘𩬡𩰐𩰠𩰯𩲥𩲣𩲶𩲫𩵨𩵧𩵯𩵷𩵤𩵸䰺𩵶𩵮䲱𩿐𩾳𩿋𩿖𩾱𩾴𩿗𩿆𩾺𩿑𩿒𩾵𩿄" ++
   "𩿌𩾻𩾲𪉛",
   "𪉚𪉙𪊙𪊔𪊖𪊓𪊑𪊏𪊘𪌌𪌊𪌎𪌒𪌑𪌋𪎚䵇𪎴䵑𪐜𪐠𪐡𪓓𪓒𪔸 𤳏𠄝𠆒𠆏𠆌𠏪𠒹𠕮𠖠𩇝𠘒𠘗𠙭𠠅𠟻𠟽𠠆𠠀𠟿𠟾𠢶𠤅𠤇𠪼𠪻𠮋𠮇𧯻𠿧𠿦𠿢𨗓𠿙𠿊𡀒𡀐𠿜𠿐𠾋𡀓𢨐𠿚噴𠿽𠿥𠿌𡀹𠿇𠿘𡑠𡑤𡒆𡑞𡑦𡑟𡑷𡒂𡒖𡔾𡕹𡕺𡚈𡚉𡚌" ++
   "𤏠𡙻𡚆𡢔",
   "𡢗𡢷𡢵𡢸𡢓𡢲𡢴𡢙𡣃𡢝𡢛𡢣㝇𡦟𡦞𡦣𡦠𡦡𡫅𡫆𡪾𡫄𡪿𡭌𡭊𡮱𡰕𡰗𡰐𡰘𡳠𡳟𡴧𡽃𡽈𡼝𡽐𡽘𡽇𡽔𡽓𡽀𡽕㠗𡽚𢑰𢅛𢅍𢅖𢅏幩𢅙㡢𢅔𢅓𢅐𢊳𢍮㢣𢍯𢎓𢐩𢐥𢐨𢑯𣊸𣊸𢒳𢕹𢕾𢕼𢖃憲𢠀𢠴𢡥𢠶𢢧𢡙𢡘𢠱𢡢𢠸𢡳𢠾𢡕𢡔𢢕憤𢢥" ++
   "𢢔𢢚𢢛𢢙",
   "𢢟𢡓𢨒𢨊𢨉𢨌𢨋𢨎𢨍𢨈𢴸𢴺𢴷𢴽𢴭𢶂𢶕𢶇𢶝𢶵𢶁𢷇𢶛𢶘𢶔𢶆𢶐𢴴𢶎𢶅𢶦𢶖𢿪𢿟𣊽𢿷𢿫𢿠𢿨𢿡𢿩𢿮𢿥𢿬𣁣𣃆𣃂𣃁𣃀𣃃𣄘𣊮𣊣𣋅𣊠𣊴𣊥㬞𣊤𣊨𣊦𣚨𣚍𣚂𣚞𣚉𣚃𣚑𣚦𣚚𣚐𣚅𣙽𣚣𣚛𣚥𣛰𣚖𣚈𣛖𣛘𣚆𣚤𣚗𣤜𣤙𣦞𣦟𣦝𣦜" ++
   "𣩝𣩞𣩳𣩣",
   "𣪾𣫁𣪼𣪿𣪻𣪽𣬓𣬔𣯸𣯺𣰆𣯾𣱑𤀋𣿱𣾩𣿕𣿜𣿋𣿲𤁟𣿛𣿖𣿙𣿑𣿏𣿘𣿠𣿔𣿳𤀅𣿎𣿴濆𣿚𤀎𤀆𣿗𣿍𤀇𣿡𤀈𤎾𤏯𤏙𤏚燗𤎠𤏟𤎞𤎿𤎯𤎧𤎪𤏴𤎮𤎵𤎸𤏛𤏀𤎷𤎢𤏝𤎡𤎥𤎴𤎦𤎫𤎬𤎟𤎱𤏼𤔮𤔰𤖙𤗸𤗶𤛴𤛫𤛡𤛤𤡵𤡩㺚𤢙𤢞𤢔𤢓𤢑𤨙" ++
   "𤨗𤩉𤩇𤩈",
   "𤩒𤩀𤩣𤩆𤩟𤬎𤮅𤮇𤯋𤯌𤯉𤳋𡳧𤴠𤹟𤹠𤹪𤹶𤹳𤹱𤹦㿂𤹫𤹹𤹻𤼼𤾞𤾜𥀜𥀞𥀡𥂖𥂡𥂶𥂠𥂔𥂗𥊁𥊆𥋀𥊊䁆𥊅𥊕𥉉𥊂𥊄𢡸𥊐𥊱𥏾𥏻𥕐𥕖𥕚𥕌䃜𥕗𥛡𥛙𥛛𥛴𥝅𥝇𥡴𥡫𥡨𥡩𥡹穏𥢀𥢁𥡡𥡰𥡯𥡳𥡝𥧺䆳𥧳𥨊𥨗竮𥪰𥰾𥱆𥱏𥱄𥱩𥰳" ++
   "𥰯𥱎𥰺𥰫",
   "𥲩𥱐𥱅𥰷𥰥𥰬𥰿𥰴𥰩𥰞𥰽𥻭糒𥻳𥻪𥻫𦃌𦃎𦃐𦃣𦃠𦃑𦃜𦃝𦃰𦃛𦃥𦃱𦃉𦃨𦃧𦃈𦃞𦃍𦃅𦃆𦃤𦃃𦋻𦋼𦋾𦌃𦌀𦋽𦌅𦌓𦎧𦎴𦑰𦑴𦑱𦑵𦑽𦑳𦓄𦓃𦓞𦓝𦔑𦔏𦔐𦗃𦗂𦗊𦗁𦘣𦞱𦠤𦠑𦠥𦠊𦠟𦠠𦠔𦠨𦠃𦠒𦠋𦠗𢨑𦥉𦦉𦦐𦦏𦦖𦦕𦦓𦧭𦧰𤏞" ++
   "𦪅𦩷𦩺𦪄",
   "𦩹𦩽𦩻𦫭𦫬𦷶𦶛𦺝𦼑𦻄𦻈𦻟𦺿𦺳𦺺𦼐𦼆𦺈𦺚𦻠𦻌𦺵𦻡𦺼𦻆𦼋𦺤𦺕𦺣𦻢𦻍𦻣𦺫𦻋𦺏𧏊𦺩𦼤𦻤𦼒𦻥𦽧𦺪𦺠𦻦𦻁𦻧𦼍𦺆𦺰𦺋𦻨𦻉𦼙𦻀𦼌𦻩𦻪𧇭𧇣𧇤𧇨𧇒𧇢虦𧏏𧏑𧏃𧏉𧏪𧎴𧏜𧎽𧏦𧏈𧏬𧎲𧎩𧏓𧏀𧏩𧏕䗙𧏅䗝𧏋𧏐𧏒𧏤𧏨" ++
   "𧏍𧎶𧎪𧏔",
   "𨑉𧏁𧏝𧏎𧗉𧗊𧛽𧛙𧛿𧜄𧛺𧜆𧜕𧜑𧜇𧜋𧟼𧟽𧡭𧡥𧤔𧤓𧤌𧤋𧤘𧤢𧩽𧩯𧩵𧩻𧪀𧩿𧪖𧩭𧩫𧪆𧩳𧩢𧩷𧪁𧩩𧪂𧪗𧪄䛼𧩸諭𧩺𧩪𧩥𧩾𧪔𧯂𧯁𧯹𧱱𧱫𧱭𧱯𧱮𧳲𧳨𧳯𧳩𧳪𧳭𧳳𧳦𧷉𧶴𧶳𧶹𧷊𧶱𧶶𧷇𧷄𧶷𧹯𧼳𧼲𧼟𠠄𧼫𧼰𧼶𧽂𧽁𧼯𨂥" ++
   "𨂫𨂩𨂳𨂧",
   "𨂠𨃒𨂨𨂶𨂬𨂮𨃦𨉥𨍇𨍣𨍍𨍟𨍋𨍠𨍉𨍓輸輺𨍗𨍎𨍒𨍔𨐠𨐢𨗁𨗗𨗕𨗄𨗐𨖻𨗢𨗋𨖸𨖿𨗘𨗀𨖺𨖴𨖼𨗔𨗭𨗂𨗙𨗌𨜯𨜣𨞖𨞍𨞞𨞙𨢃䤇𨡪𨡩𨡵𨡬𨢀𨡮𨢁𨡷𨡶𨡳𨡰𨢄𨤙𨧲錽𨧬𨧫𨧶𨧯𨧴𨧮𨧳𨧭𨲛𨲘𨲔𡑺𨲚閷𨵌䦨𨵗𨵑𨵢𨵒𨵜𨵓䦕" ++
   "𨺅𨼭𨼾𨼰",
   "𨽽𨿦𨿶𨿤𨿩𨿬𨿲𨿨𨿣𨿫𨿰𨿪𨿧𨿽𨿥𨿮𨿵𨿹𨿱𨿴嶲𩀑𩃞𩃘𩃝𩃛𩃓𩃡𩇞𩇼𩈨𩊷𩊸𩋇𩊲𩊩𩊹𩊼𩊳𩋑𩎰𩎱𩎶𩐄𩐬𩓁𩒞𩒺䫊𩓑𩓓𩓔𩓕𩓅𩒶𩒲𩒵𩓃𩒹𩓆𩗖𩗠𩗛𩗗𩗝𩜕𩜌𩜏𩜎𩛾𩜄𩜋𩜂𩛿𩜈𩜐𩜗𩜓𩜆𩜉𩠤𩠦𩠥𩡈𩢵𩣒𩣕𩣄𩢯𩢭" ++
   "𩣁𩣀𩣌𩣍",
   "𩣃𩣈𩣅𩢺𩣐𩣂𩣎䮍𩩃𩩂𩩀𩨱𩫏𩫎𩬰𩬴𩬲𩭃𩬼𩰑𩰵𩰴𩰷𩰱𩲿𩲼𩳂𩳉𩶃𩶋𩶠𩶍𩶌𩶚𩶊𩶑𩿱𪀏𪀁𪀇𪀌䳀𩿜𩿮𩿷𩿲𩿸𩿫䳊𩿦𩿭𩿩𪀈𪀀𩿥𩿼𪉡𪉞𪉟䴥𪊛𪌖𪌕𪌠𪌔𪌚𪌗𪎜䵊𪏱䵓𪏰𪐨𪐤𪐪𪐫𪓕𪔄𪔅𪖑𪖒𪚦𠄉𠐢𠐚𠐎𠐛𠐈𥂳𩇟" ++
   "𠚝𠠒𠠞𠢻",
   "𠢿𠢼𠤈𠤉𠥣𠧈𣜨𠮎𠮍𡁃𡁍𡁭𡁂𡁒𡁑𡁩𡁐𡁖𡁬𡁄𡁅𡁫㘅𡁨𡁗𡈮𡈱𡈭𡒋𡒲𡒍𡒣𡒤𡒐𡒉𡒎𡒒𡕻𡚐𡚏𡣩𡣍𡣅𡣐𡣉𡣑𡣇𡣒𡡟𡣡𡣌𡣆𡣤𡦩𡫓𡫚𡫒𡫛𡭍𡭎𡰜𡳨𡽬𡽟𡽦𡽤𡽸𡽥𡽭𡽡𡽺𢀇𢅦𢅨𢅢𢋓𢋔𢋑𢋜𢍳𢍲𢐭𢐬𢐯𢑲𢒴𢖉𢣍𢢦𢢢" ++
   "𢢠𢡆𢢡𦡗",
   "𢢣𢢱𢣛𢣶𢣜𢣖𢨓𢶜𢶗𢷘𢷤𢷔𢷥𢷛𢷐𢷚𢷌𢷜𢷭𢷓𢷑𢷎𢷙𢷝摷𢻦𢻥𢻩𢿿𢿾𣀎𣂌𣃊𣃋𣄚𣋗𣋏𣋐𣋉𣋌𣋓𣎤𣎣𣚁𣜦𣛳𣜧𣛲𣛿𣛵𣛼𣜎㯰𣛶𣜀𣜣𣜅𣜥𣜈𣝐𣤥𣤠𣤣𣤡𣦡𣩩𣩬𣩨𣩫𣫌𣫍𣰐𣰍𣰊𣰖𣰔𣱒𤀨𤀮𤀬𤁍𤁉𤀱𤀰𤀳𤀭𤀶𤀾𤀯𤀧" ++
   "𤀴𤁌𤏾𤐒",
   "𤐟𤐗𤏵𤐕𤏷㸂𡽽𤏺𤏹𤑋𤖜𤖝㸣𤛰𤛶𤛯𤢝𤢚𤢧𤢯𤢪𤩤𤪆𤩵𤩰𤪄𤩫𤪅𤩬𤬗𤮔𤮓𤳒𤳗𤳔𤺦𤺧𤺜𤺋𤺍𤺘𤺹𤺛𤺝𤺙𤺨𤺑𤺇𤺚𤾦𥀟𥂧𥂱𥂲𥂷𥋐𥊳𥊵𥋄𥋃𥊼𥊲𥊺𥊻𥋂𥋍𥊾𥊷𥎏𥐃𥐄𥕱𥕷𥕴𥖋𥕺䃣𥖌𥕳𥛿𥛻𥛽𥛰𥛳𥛼𥛲𥢒𥢞𥢮𥢖" ++
   "𥨔𥨒𥨓𥨖",
   "𥨏𥪶𥪽𥲌𥲮𥲬𥲫𥲙𥲒𥲻𥲞𥱾𥲯𥲼𥲘𥼁𥼉𥼆䊠𥼇𥼈𦃏𦄎𦄲䌕𦄒𦄖𦄗𦄛𦄕𦄱𦄘𦄚𦄐𦄊𦄉𦉏𦉇𦌏𦌐𦋙𦌨𦌑𦌖𦌗𦌂𦎻𦎺𦏃𦎼𦒊𦒄𦒆𦓠𦔗𦔘𦔞𦔕𦗓𦗚𦗙𦟦𦟴𦟡𦡩𦡀𦡘𦡬𦡍𦤡𦦙𦧱𣽨𦪆𦽛𦽜𦽷𦼬𦼬𦽘𦽤𦽡𦽈𦾗𦽙𦼩𦽢𦼮𦽨𦾐" ++
   "𦼺𦼽𦽞𦽆",
   "𦽩𦽥𦼾𦽉𦽖𦿡𦽸𦽹𦽦𦽊𦼵𦽺𦾒𦽠𦼶𦽑𦽂䕝𦼿𦽻𦽝𦾔𦽪虧𧇲𧎻𧐛𧐚𧐳𧐗𧐊𧐕𧐒𧐁𧐭𧏽𧐣𧐅𧐑𧐀𧐜𧐵𧐮𧐶𠪿𧐯𧐌𧐉𧐱𧏼𧐏𧐘𧐂𧘀𧜟𧜷䙚𧜸𧜫𧜮𧜡𧜰𧜩𧜱裺𧜁𧜬𧜢𧟿𧡷𧡧𧡿𧡽𧡻𧡾𧤞𧤜𧤡𧤦𧤧𧤩𧤬𧤝𧤫𧪿𧪤𧪪𧪮𧪟𧫐" ++
   "𧪱𧪭𧪛𧪲",
   "𧪩𧪳𧪴𧪺𧪥𧪷𧪬𧫋𧫏𧯆𧰁𧯿𧯽𧱷𧱸𧱶𧳷𧷌䞅𧷔𧷗𧷕𧷖𧷓𧽝𧽕𨃠𨅈𨃮𨃛𨃧𨃖𨃥𨃡𨃝𨃢𨉰𨉦𨉯𨉮𨎁𨍩𨍮𨍭𨍬𨎄𨎅𨍱𨍳𨍪𨍯𨍻𨕪𨕼𨕽𨖁𨗺𨘅𨗫𨗻𨗩𨗯𨗼𨗧𨗭𨗮𨗽𨜲𨞧𨞵𨞱𨞹𨞨𨞳鄛𨢊𨢑𨢍𨢙䤋𨢚𨢛𨢒𨢏𨢫𤳛䤹𨩵𨨱𨨸" ++
   "䤷𨨵𨩩𨨻",
   "𨨽𨩬𨩹𨨼𨨾𨲗𨲥𨲢𨲝𨲡𨵨𨵯𨵭𨵲𨵵𨵷𨵹𨺵𨻪𨺫𨽃𨽁𨽂𩀉𩀈𩀆𩀁𩀃𩀀𩀄𩀊𩀎𩀍𩀇𩀏𩀔𩀂𩀕𩀌𩀐𩀅𩃽𩃿𩄄𩄀𩄉𩈫𩈚𩈱𩋛𩋅𩋓𩋎䩫𩋉𩊿𩋋𩋀𩋐𩋔𩏁𩎹𩎻𩏃𩏉𩐇𩐭𩓸𩓡𩓺𩓯𩓽䫍𩓫𩓱𩓭𩓾𩗸𩘃𩗮𩗨𩘁𩛬𩜢𩜔𩜴𩜯𩜹𩝁𩜼" ++
   "𩝉𩝘𩜺𩝂",
   "𩜿𩠢𩠣𩡊𩣜𩣙𩣛𩣢駾𩣟𩣠𩣗𩩏𩩆𩩓𩩕𩩎𩩊𩩌𩩣𩭑𩭓𩭘𩭍𩭚𩭉𩭝𩰒𩰼𩳑𩳟𩳖𩳘𩳠𩳙𩶱𩶬𩶪𩷮𩶽䱍𩷃𩶨𩶮𩶫𪀝𪀧𪀸𪀒𪁈𪀫𪀖𪀙𪀽𪀣𪀪𪉤𪊭𪊬𪊑𪊱𪊯𪌬𪌤𪌥𪌨𪏹𪏷𪏽𪏾𪐹𪐳𪓗𪓘𪓤𡒡𪔎𪔻𪕄𪕂𪖔𪖓𪗕𪚧𠐱𠐣𠐨𠐧𠓆𠖣" ++
   "𠘡𠠛㔐𠣁",
   "𠣃𠤪𠥩𠨧𡂶𡂧𡂤𡂦𡂐𡂞𡂔𡂨𡂥𡂢𡂑㙻𡒼𡒽𡒴𡒰𡓤𡕅𡕋𡕾𡕿𡕽𡗃𡣼𡣷𡣰𡣭𡣱𡣸𡫩𡳫㠝𡾐𡾍𡾆𡾑𡾊𢀈𢁐𢋪𢋦𢋢𢋧𢋭𢋡𢐴𢑶𢑵𢑳𢒵𢖐𢖒𢣡𢣟𢣕𢣲𢣾𢤓𢤮𢨙𢸈擵𢸅𢸉𢸆𢸃𢷽𢷼𢸂𢹂𣀚𣀑𣀕𣀖𣃌𣃏𣃐𣄢𣄞𣄡𣋥㬧𣍔𣋯𣍓𣍑" ++
   "𣎭𣝧𣝨𣞤",
   "𣝷𣞉𣝄𣞋𣝹𣝛𣝃𣝗𣝊𣝼𣝆𣝻𣝖𣦨𣩶𣩲𣫖𣫘𣫑𣰢𣰠𣰣𣰞𣱮𤂣𤁷𤂦𤁭𤂢𤁼𤂄𤁨𤁴𤂆𤂥𤁻𤁺𤁩𤁲𤁶𤑊𤐷𤐪𤐭𤑆𤐨𤐦𤑂𤐬𤐸𤐫𤐳𤑅𤔹𤛹𤛺𤢸𤢷𤢻𤢹𤢴𤩯𤪇𤪏𤪢𤪣璅𤮛𤮝𤯎㿏𤺽𤺿𤺒㿍𤻯𤻉𤾤𤾨𤾪𥀨𥀤𥀥𥀦𥂩𥂺𥂾𥂼𥃀𥋰" ++
   "𥋟𥋠𥋭𥋛",
   "𥋻𥊹𥋚𥋫𥋬𥖚𥖟𥖛𥖗𥖡𥜏𥜅𥝈䆂𥢼𥢺𥪿𥴁𥳨𥳯𥳤𥳦𥴂𥳫𥳠𥳭𥳙䈧𥴔𥳮䉒𥴓𥳹𥳸𥼥糣𥼙𥼠𥽃𥼿𦅅𦅌𦅉𦅏𦅁𦄾𦅍𦅒𦅊𦅎𦅳𦅂𦅑𦅕𦅐𦅬 𦅪𦅓𦅨𦉕𦉖𦌜𦌝羀𦌞𦌣𦌟𦏡𦏍𦏋𦏌𦏈𦏉𦒛𦒔𦒒𦒖𦒓𦒕𦒏𦔝𦔢𦔡𦗩𦗯𦗠𦗦𦗤𦠩" ++
   "𦠬𦡶𦢃𦡸",
   "𦠼𤑃𦡺䑑𦣲𦦞𦦛𦦚𦧶𦧵𦪥𦪓𦪤𦺂𦻇𦾷𧀝𦿢𦿗𦿣𦿤𦾼𦿓䕚𦽚𦿒𦼭䕡𦿄𦿐𦿥𧀅𧀇𦿦𧀛𦿧𦿘𦾾𧀗𦾴𦿙𦿨𦾭𦾯𦿈𦿩𦿪𧇾𧇻𧈀𧑲𧑰𧑆𧑙𧑞𧑈𧑏𧑱𧑠𧑟𧑮𧑳蟡䗗𧑇𧑭𧑯𧒁𧑬𧑸𧒃𧑉𧑨𧑴𧑣𧑪𦢅𧑥𧑢𧓈𧗐𧗔𧗑𧘃𧝂𧝣𧝖𧝛𧝕𧝐" ++
   "𧜭𧝄𧝈𧝅",
   "𧞂䙥𧝢𧢅𧢍𧤶𧤯𧤱𧤷𧪧𧫙𧫰𧫲𧫽𧫨𧫫𧫮𧫠𧫩𧫭𧫖𧫸𧫔𧫟𧫧𧫘𧫣𧫯𧬏𧯊𡕆𧰅𧰌𧰍𧱿𧲀𧲁𧴁𧴃𧷲𧷢𧷣𧷞𧷩𧷨𧷠𧸁𧷵𧷤贁𧹷𧽴𧽯𧽢𧽡𧽭𧽳𧽪𧽩𨄒𨄭𨄔𨄏𨄩𨄖𨄃𨅆𨅜𨄑𨄆𨃜𨄫𨄪𨄬𨄧𨉺𨎜𨎙𨎕𨎋𨎘𨎖𨐲𨖤𨖪𨘛䢯𨘍𨘜𨘊" ++
   "𨘠𨘈𨘚𨘓",
   "𨘑𨝝𨝟𨝞𨝠𨞻𨞼𨟁𨟀𨟈𨟎𨢧𨢲𨢶𨢥𨢺𨢵𨢭𨢤𨣓𨢰𨢱𨤝𨪍䥁𨪑𨪶𨪷𨪽𨪼𨪖𨪔𨪠𨲨𨲦𨶄𨶖𨶈𨶚𨻑𨻏𨽐𨽑𨽎𨾀𨾁𩀛𩀗𩀠𩀙𩀚𩀡𩀞𩀘𩀝䨩𩄭𩄤𩄧𩄮𩄥𩄜𩄙䨪𩄣𩄟𩄚𩄫𩄞𩇠𩈳𩋦𩋼𩋥𩋸𩋶𩋪𩋲𩋭𩋫𩋰𩋱𩏆𩏈𩏎𩏅䪖𩏋𩔓𩔔" ++
   "𩔇𩔌𩘚䬒",
   "𩘗𩘆𩘖𩘇𩘐𩘉𩘙𩘕𩝮𩜻𩜾𩝬𩝥𩝤𩝙𩝼𩝰𩝹𩠬𩡒𩡑𩡌𩤀𩤐𩤓𩣿𩣾𩣭𩩚𩩘𩩜𩫚𩭸𩭞𩭧𩭤𩰓𩰣𩱁𩰿𩱀𩳭𩳣𩳪𩳰𩳦𩳩𩳱𩳮𩷔𩷑𩷜𩷬𪁩𪁭𪁗𪁦𪃹𪁊𪁠𪁖𪁙𪁌𪁪𪁢𪁣𪁰𪁟䳎𪁤𪁝𪁨𪂟𪊺𪊸𪊼𪊹𪊴𪌻𪌭𪌸𪌯𪌲𪑁𪓋𪓞𪓝𪓚𪓜𪔐" ++
   "𪕏𪕉𪖘𪖖",
   "𪖗𪗇𠆜𪗚𪗘𪚨𠄊𠆝𠓋𠔸𠔹𠖦𠠣𠠢𠠡𠧎𠮒𠮑𡃬𡃠𡃭𡄈𡃥𡃮𡃤𡃫𡃣𡃪𡄊𡓤𡓑𡓣𡓔𡓐𡓙㙾壡𡓚𡓓𡕌𡕍𡕼𡖀𡗌𡣿𡤈𪔈𡤁嬾𡤀𡫭𡫳𡫮𡫱𡫰𡫞𡭑𡾂𡾩𡾘𡾝𡾚𡾞𡾟𡾦𡾧𢀉𢀯𢅱𢅭𢅲𢋯𢋰𢐻𢐹𢐼𢐸𤯽𢐺𢑸𢑹𢑷𢖘𢖜𢖙𢖚𢤑𢤊𢣽𢤏" ++
   "𢤙𢤃𢤕𢤌",
   "𢤉𢤒𢤴𢤪𢤈𢤭𢤨懶𢤬𢤦𢤳㦧𢨚𢨞𢸇𢸬𢸲𢸨𢸱𢸩𢸰𢸪𢹄𢸮𣃑𣄤𣋷𣋴𣋳𣋸𣞵𣞖𣞘𣞕𣞑𣞲𣞞𣝙𣞣𣞚𣞛䌠𦆃𣫚𣫟𣬖𣰟𣰭𣰮𣰫𤂸𤂻𤂿𤂺𤃕𤃣𤃁𤂾𤂽𤂴𤃂𤂡𤂇𤃗𤃊𤂵𤃚𤃙𤂳𤃘𤑧𤑱𤑢𤑜𤑨𤑒𤑖𡄉𠑂𤖠𤜀𤛾𤛿𤣋獺𤣊𤢩𤣈𤪴𤪬" ++
   "𤪪𤪩𤰎𤳩",
   "𤳭𤳲𤳫𤳮𤻨𤻛𤻗𤻣𤻥𤻮𤻕𤾳𥀭𥃁𥃃𥌌𥌎𥌇𥌗𥌉𥌖𥎚𥎜𥖴𥖷𥖳𡕎𥜓𥜔𥣦𥣜𥣨𥣥𥨮𥨬𥨫𥫍𥴽𥴲𥴭𥵅𥴾𥵐𥴥𥵓𥴣𥼷𥼸𥽇𥼽𥼾𥽉𥽊𥼝糩𦆥𦆌𦆍𦆉𦆖𦆅𦆏𦅷𦆎𦆂𦆊𦆈𦅻𦆗𦅽𦅹𦉙𦌤𦌭𦌮𦌫罺𦏚𦏘𦏖𦒇𦒠𦔨𦔥𦔟𦗳𦗷𦗶𦠫𦡛" ++
   "𦡈臋𦡜𦡭",
   "𦢝𦢙𦢌𦢑𦢛𦢚𦢜𦢕𦢍𦢖𦢥𦤪𦦡𦦤𦦭𦪩𦪮𦪰𧀍𦽣𦽱𧁑𧁔𧀪𧁄𧁕𧂙𧀹𧀿𧀾𧁏𧁍𧀵𧁀𧀱𦿕𧀫𧀳𧁁𧁖𧁌𧁆𧀼𧁅𧁃𧀽𧁰𧁗𧀸𧁘䕥𧀷𧈇𧈆𧈉𧒫𧒐𧒓𧒼𧒩𧒞𧒿𧒪𧒑𧒤𧒚𧒧𧒡𧒜𧒢𧒛𧒟𧒔𧒏𧋰𧒒𧒕𧒥𧒦𧘄𧞜𧝹𧝺𧝾𧝻𧝱𧞁𧝿𧝼𧝽" ++
   "𧝵𧝶𧢎𧢏",
   "𧤾𧤿𧥀𧥁䜄𧬍𧬗𧬐𧬎𧫪𧬝𧬃𧬢𧬄𧬀𧬠𧬡𧬣𧬓𧬉𧬑𧯋𧯎𧯐𧯌𧯔𡓛𧰉𧰋𧲅𧴆𧴍䝤𧴔𧴏𧸉𧸔𧸋𧷼𧸄𧸊𧸀𧷽𧸇𧸆𧸑𧹹𧹸𧾈𧾀𧾋𨅙𨅡𨅵䠣𨅕𨅛𨅟𨅒𨅢𨅲𨅝𨅨𨅱𨅥𨅦𨅧𨅶𨅌𨅠𨅴𨅐𨊊𨊁𨊆𨉿𨊀𨎥𨎧𨎨𨎦𨎯𦆕𨎱𨐵𨐹𨗃𨘰𨘪𨘫" ++
   "𨘭𨘮𨘬𨘣",
   "𨘡𨘢𨝬𨞁𨞏𨞀𨟐𨟍𨟕𨟔𨣑𨢾𨣋𨣎𨢽𨣐𨬄𨫕𨫐𨫓𨫻𨫘𨫑𨫽𨫙𨫖𨫦𨫹𨶡𨶝𨶞闙𨻿𨽟𨽗𨽠𨽙𩀬𩀥𩀧𩀰𩀤𩀦𩀭𩀮𩀩𩀱𩅅𩅇𩅒𩅊𩅐𩅆𩅏𩅎𩅓𩌡𩌉𩌚𩌛𥌕𩌐䩶𩌔𩌎𩌒𩌋𩏏𩏒𩏐𩏔𩏓𩏑𠬘𩐊𩐉𩔜𩔧𩔥𩔛𩔩𩔟𩔰𩔤𩔨𩔙𩔯𩘤𩘡𩘥" ++
   "𩘦𩘧𩙶𩝦",
   "𩝵𩝩𩝾𩞏𩝴𧈐𩞭𩠫𩠪𩡘𩤢𩤝𩤫𩤬𩤭𩤳𩤛𩤧𩤪𩤨𩤻𩩾𩩱𩩹𩩸𩩰𩩭𩩽𩩵𩩶𩫞𩭦𩮃𩮇𩭻𩮉𩮆𩮂𩭼𩮁𩱃𩱅𩳷𩳹𩳺𩸅𩷾𩸏𩷿𩷺𩸉𩸠𩸌𩸼𩸢𩷸𩸊𩸈𩷷𪂎𪁷𪂋𪂴𪂊𪂚𪁹𪂃𪁿𪂡𪂏𪂣𪂁𪂔𪁾𪂂𪂐𪂥𪂭𪂝𪉧𪉩𪋋𪋈𪋑𪍀𪍋𪍉𪍆𪌾𪍃" ++
   "𪌿𪎥𪎧𪑎",
   "𪑍𢖛𪓥𪓡𪓢𪔖𪔔鼖𪕙𪕑𪕟𪕊𪕗𪕘𪗊𪗛𪗞𪗠𪗡𪗟𪗢𪗣𪚒𪚿𪚾𠄋𠑒𠑎㒹㒹𠖧𠠦𠠧𠣆𠤋𠥪𠥸𡄚𡄖𡄙𡄗𡄛𡄘𡄠𡈷𡓬𡖁𩈽𡤏𡦭𡫻𡭒𡾯𡾷𡾲𢅸𢆬𢌀𢋾𢌂𢋽𢌃𢑀𢑃𢑂𢒷𢖢𢤀𢤵𢥁𢤅𠑓𢥐𢥎𢥓𢹓𢹐𢹗𢹟𢹕𢻪𣀦𩠰𣀪𣀨𣀬𣀭𣃔𣌇𣍘" ++
   "𣍙𣟅𣟍𣟇",
   "𣟨㱋𣤲𪚗𣫞𣰲𠫈瀛𤃱𤃰𤃬𤄉𤃹𤃵𤃾𤑴𤒁𤑼𤑵𤒉𤒂𤒗𤒆𤑽𤒓𤒜𤑶𤒀𤕅𠚡𤜃𤣉𤣍𤣐𤪭𤫅𤮢𤳬𤳶𤳳𤻳𤻺𤻹𤻵𤻴𤻸𤾶𤾴𥀲𥃍𥃈𥃎𥃊𥌪𥌡𥌝𥖽𥖾𥗂䃱𥗉𥜟𥣱𥣭𥣲𥣠𥣷𥨰𥨷𥨱𥨶𥫈𥵭𥵩𥵽𥵡𥵰𥵱𥵳𥵶𥵵𥵸𥵹𥵤𥵮𥽑𥽏𥼢𦆯𦆪" ++
   "𦆣𦆝𦆜𦆡",
   "𦆶𦆬𦆢𦆧𦆰𦆩𦇃𦌱𦌲𦌳𦌴𦌷𦌼𦏙𦏝𦏞𦏟𦏠𦒥𦒪𦒢𦒣𦘄𦘃𦗾𦘨𦢯𦢭𦢦𦦬𦦥𦦰𦦱𦨁𦪲𦫒𦫱𦿑𧁇𧃉𧂧𧃈𧂕𧂎𧂑𧁽𧃮𧂍𧂌𧂰𧂖𧁂𧁼𧂱𧂲𧂄𧂝𧂡𧂘𧂳𧀢𧁻𧂊𧃎𧂀𧂗𧂴𧂵𧂚𧂟𧂓𧈒𧈋𧈎𧒣𧓌𧓜𧓡𧓞𧓒𧓛𧓙𧓗𧓔𧓉𧓫𧓚𧓑𧔄𧓊" ++
   "𧓢𧗗𧞌𧞙",
   "𧞢𧞖𧞔𧞟䙧𧞎𧠃𧢔𧢓𧥄𧬯𧬵𧬫𧬲𧬭𧬶䜔𧬱𧬒𧬳𧬟𧬴𧭀𧬿𧭁𧯓𧲉𧴘𧴐𧸚𧸥𧸞𧾒𧾕𧾓𨆄𨆚𨆉𨆍𨆈𨆑𨆛𨆜𩕈𨊎𨊒𨏅𨏁𨎸𨎾𨎵𨏇𨐼䢉𨗬𨘿𨘹𨘷𨞡𨞔𨞠𨟞𨟛𨟟𨟜𨣖𨣜𨣝𨣠𨣣𨣡𨬘𨬙𨭓鐕𨭄𨬎𨬏𨭇𨬗𨬝𨬑𨲴𨲶𨶷𨶾𨷂𨶴𨼱𨼕" ++
   "𨾃𩀻𩀶𩁂",
   "𩁐𩁀𩀴𩀸𩀽𩀾𩀵𩀺𩁆𩀷𩀹𩁅𩅷𩅝𩅪𩅶𩅫𩅬𩅥𩅤𩅱𩅟𩅲𩇾𩇿𩈾𩌫𩌶𩌭𩌹𩌿𩌻𩌳𩍂𩌺𩏕𩏘𩏙𩐍𩐊𩐹𩐺𩔽𩕅𩔺𩔷𩔾𩕂𩞇𩞌𩞂𩝫𩞠𩞚𩞐𩞎𩞡𩞽𩞲𩞵𩞷𩞪𩞢𩞥𩞮𩞫𩞼𩠲𩡚𩥤𩥜𩥍𩤿𩤾𩥒𩥘𩥗𩥞𩥓𩥔𩥖𨽥𩪄𩪅𩪆𩮗𩮡𩮢䰋鬒" ++
   "𩮣𩮦䰗𩰕",
   "𩰤𩱊𩱉𩱈𩱋𩴎𩥢𩴋𩴊𩴈𩴆𩹃𩹇𩸿𩹆𩹐䱭𩹋䱰𩹒𪃗𪂿𪃘𪃠𪃧𪂸𪃕𪃯𪃦𪃤𪃔𪃖𪃪䳭𪂻𪃩𪃎𪉭𪉰𪉳𪉲𪋔𪋎𪋕𪍚𪍘𪍒𪍐𪍕𪍎𪍍𪏋𪏌𪏍𪏑𪑘𪑣𪑞𪑔𪑛𪓩𪓧𪓨𪔝𪕧𪕚𪕜𪕛𪕡𪖡䶍𪖤𪗩𪗯𪗥𪗵𪗫𪗭𪚖𪚕𪚳𪚵𪚱㒧𠑍𠘤𠠫𠧏𠫉𡄶" ++
   "𡄱𡅔𡄺𡄸",
   "𡈹𡈸𡓴𡓳𡓶𡓼𡓵𡓱𡚜𡤘𡤚𡫼𡫾𡬃𡭓𡴫𡿆𡿁𢅻𢌆𢑉𢒸𢖣𢥒𢥍𢥟𢥞𢥡𢨣𢺌𢹯𢹵𢹴𢹱𢹰𢹬𣄦𣌈朇𣟰𣟯𣟻𣠐𣠌𣟶𣟾𣩼𣫡𣰸𣱯𤄘𤄕𤄜𤄐𤄵灊𤄗𤄝𤄦𤄨𤄩𤄪𤄚㶖𢌇𤒫𤒬𤒡𤒮𤒣𤒧𤕈𤘄𤛽㹚𤜈𤣒𤫆𤪾𤬜𤮦𤮧𤮫𤰀𤳻𤳼𤳹𤴁𤼆𤼄" ++
   "𤾸𥀴𥌶𥌲",
   "𥍂𥌭𥌵𥗘𥜣𥜠𥤁𥤀𥤃𪚼𥨼𥩁𥨵𥫉𥶎𥶞𥶙𥶴𥶪𥶟𥶖𥶝𥷃𥵴𥶫䊯𥽣𥽛𥽚𦇅𦇄𦇏𦇈𦆤𦆽𦇓𦉠𦌻𦏣𦏧𦒨𦒬𦒩𦔪𦘈𦘉𦢹𦫁𦫂𦪸𧃡𧃫𧃥𧃺𧃤𧄋𧃗𧃯𧃠𧃬𧃻𦾱𧃓𧃦𧃼𧃣𧃏𧃚𧃜𧃒𧂤䕫𧈗𧈖𧓲𧓼𧔘𧓶𧓾𧓳𧓷𧔁𧓹𧔆𧓵𧔐𧓟𧔃𧔈𧗘" ++
   "𧘅𧞗𧞳𧞮",
   "𧞯𧞧𧞱𧞨𧞬𧞫𧠄𧢚𧥊𧭂𧭘𧭋𧭅𧭉𧭌𧭙𧭖䜛𧭆𧭄𧭛𧭩𧲎𧲏𧴞𦢼𧸯𧾞𧾝𧾟𧾜𨆴𨆮𨆫𨆳𨆯𨇂𨊓𨊕𨊖𨊗𨏏𨏎𨏋𨑋𨙆𨙃𨙅𨙑𨞮𨞯𨞰𨞸𨟢𨟣𨟦𨣭𨣪𨤺𨭙𨮄𨭟𨭼𨭜𨭘𨭕𨭝𨭾𨮀𨮃𨭗䥣𨭞𨲺𨷕𨽘𨽨𨽧𩁊𩁌𩁒𩁉𩁎𩁇𩁍𩁋𩁏𩅾𩆇𩆃" ++
   "𩆉𤫊𩆆𩆈",
   "𩉇𩉂𩉉𩉈䪀䪄䩿𩍄𩍑𩍆𩍇𩏤𩐏𩐿𩕋𩕗𩕒䫱𩕑𩕘𩕞𩕓𩕝𩕍𩘼𩘿𩙆𩘾𩙄𩙅𩙁𩘸𩙂𩙃𩙺𩞣𩞺𩟀𩟄𩟆𩟋𩡡𩥺𩥳𩥲𩥴𩦀𩦁驇𩪕𩪏𩪐𩪒𩪔𩪋𩫦𩮲𩮸𩮽𩮾𩯎𩮺𩰖𩰦𩰥𩱌𩱐𩱎𩱑𩱒𩴔𩴕𩴛𩺂𩺙𩺚𩹽𩺅𩺆𩺜𩹹𩹻𩺀𩺃𩺁𪄞𪄛𪄪𪃻𪄅" ++
   "𪄠𪄑𪄄𪃽",
   "𪄃𪄐𪄘𪄊𪅎𪄉𪄇𪄜䴜𪉷𪉶𪋘𪋙𪍡𪍜𪍞𪍠𪎪𪏖𪏘𪐉𪐈𪑫𪑥𪑳𪑴𪓭𪔤𪔥𪕪𪖧𪖨𪘋𪗺𪗹𪗿𪘄𪗶𪘅𪚙𪚫𪚽𪚸㒨𠑤𠑚𠕲𠥺𠮕𡅟𡅡𡅞𡅚𡅜𡅝𡅮𡅗𡅘𡔂𡔋𡔈𡕑𡤥𡤨𡤣𡤡𡤤𡤩𡬆𡬊𡿊𡿌𡿋𡿏𢅿𢅼𢇖𢌉𢌋𢍶𢑽𢖥𢥛𢥜𢥝𢥥𢹭𢺂𢺃𢺇" ++
   "𢺕𢺊𣃖𣄨",
   "𣌍𣠮㰘𣠭𣠡𣠙𣤻𣤼𣤺𣩾𣰻𤅇𤄹𤄴𤄶𤅆𤄻𤅁𤅅𤓀𤓄𤒺𤒽𤒾𤖣𤜌𤣙𤫍𤮮𤳿𤴤𤾻𤾼𥀶𥃕𥃓𥃖𥌼𥌿𥗞𥗣𥜧𥜩䆋𥤅𥤇𥤌𥫐𥶾𥶼𥷐𥷂𥶵𥷉𥽦䌫𦇕𦇢𦇜𦇣𦇚𦇂𦇨𦏩𦒯𦒭𦒮𦘋𦣁𦦶𦦹𦫀𧂥𧄨𧄢𧄩𧄘𧄟𧄜𧄒𧄪䕺𧄡𧄫𧄗𧃰𧄖𧄣𧔫𧔦" ++
   "𧔽𧔢𧔺𧔱",
   "𧔲𧕔𧔡𧔵䘉𧔮𧔰𧔯𧔶𧗚𧗙𧞻𧞼𧞷𧟂𧞽𧞲䙭𥍄𥷑𧭒𧭫𧭧䜟𧭡𧭬𧭑𧭴𧭷𧭯𧭭𧭨變𧮄𧲐𧲒𧲓𧴟𧸱𧸸𧸹𧸷𧾫𨇃𨇈𨇋𨇏𨊘𨏔𨏓𨏘𨏙𨏝𨏑𨏖𨐾𨙘𨙗𨙕𨟄𨟤𨣮𨣯𨣳𨣲𨣰𨮫𨮚𨮯𨮗䥪䥬𨮿𨮔𨮓𨲾𨲻𨲼𨷙𨽬𩁓𩁔𩁛𩁘𩁖𩁗𩆟𩆔𩆖𩆗" ++
   "𩉊𩉋𩍕𩍚",
   "𩍞𩍟𩍙𩍛𩍘𩍔𩏨𩏫𩏬𩐓𩕦𩕫𩕢𩕩𩕣𩕟𩕎𩙈𩙊𩟣𩟛𩟘𩟖𩦆𩦐𩦑𩦈𩦔𩦃䮲𩦜𩦍𩦅𩪘𩪚𩪜𩫧𩯅𩯐𩯑𩰙𩰧䰝𩱔𩴭𩴢䰭𩴟𩺽𩺮𩺻𩺭𩺼𩺹𩺴𩻋𩺷𩺳𩺺𩺶𩻍𩺾𩻉鱀𪅟𪄻𪅡𪅜𪆊𪅚𪅍𪅆𪅄𪄽𪅀𪄼𪆌𪅁𪅌𪄾𪅊𪉼𪉺𪍥𪍮𪍩𪍪𪍯𪍬𪍰" ++
   "𪍨𪍫䵅𪎬",
   "𪏞𪏝𪏜𤓅𪒌𪒃𪒂𪒈𪒅𪒁𪓵𪓯𪓴𪓲𪓶𪓳𪓰𪓱𪔫𪔧𪔨𪕬𪖮𪘎𪘛𪘖𪘟𪘢𪘠𪘡𪘔𪘓𪚝𪚜𪚞𪚟𠑫𠣈𡅸𡅶𡅰𡅱𡔊𡤬𢌑𢑾𢥗𢥦𢥩𢥧𢥨𢥱𢥯𪎮𢺋𢺖𣀵𣀺𣁫𣌖𣡃𣡆𣠿𣠻𣠽𣦱𣦲𣫤𣱀𤅝𤅑𤅍𤅌𤅛𤓔𤓒𤓊𤓈𤓐𤓉𤕉𤖤𤜒𤜏𤜑𤣛𤣝𤣜𤫔𤬡" ++
   "𤮲𤴄𤴂𤼑",
   "𤼖𤼐𤾾𧈚𥍌𥍊𥗲𥗱𥜪𥜬𥜯𥜱𥤑𥤒𥩋𥷛𥷖𥷝𥷢𥷤𥷠𥷟𥷣𥽮𥽱𦇩𦇪𦉣𦏫𦏪𦢽𦢻𦣆𦣌𦣈𤓏𦣉𦣊𦣏𦣐𦦺𦧻𦨃𦫄𧅉𧅓𧄶𧅊𧅁𧅎𧄙𧅍𧅅𧅌𧅇𧅈𧅏𧄷𧅂𧕊𧕆䘊𧕉𧕏𧕑𧕌䘌𧘆𧥑𧭺𧮃𧭾𧭿𧮀𤮵𧲑𧲔𧲕𧴡𧴠𧸽𧹀𧹆𧺄𧾬𧾭䠮𨇚𨇙𨏢" ++
   "𨏡𨏣𨏤𨏞",
   "𨏟𨙁𨙙𨙜𨙚𨟨𨣶𨣼𨣷𨣺𨣹𨯄𨮾𨯒𨮽𨮕𨯔𨷤𩁡𩁢𩁣𩁤𩁠𩁜𩁝𩁞𩆥𩆦𩉌𩍨𩍮𩍱𩍫𩍯𩏮𩏱𩏰𩏯𩐕𩐔𨽮𩑇𩕼𩕺𩕴𩕶𩕮𩕸𩕭𩕬𩙎𩟗𩟪𩟥𩡤𩦳𩦣𩦥𩦧𩦢𩦟𩦦𩦞𩦨𩪩𩪦𩪪𩪫𩪠𩪡𩪨𩫨𩫩𩫪𩯤𩯟𩯠𩰨𩱝𩱛𩱖𩱗𩱟𩱢𩻡𩻣𩻞𩻙𩻨𩻲" ++
   "𩻶𩻦𩻴𩻵",
   "𩻥𩻢䲍𪆖𪆪𪆗𪅰𪆡𪆝𪆩𪅯𪅾𪆔𪆚𪅳𪆇𪅱𪅷𪆈𪆍𪆅𪅸𪆭𪊀𪊁𪋥𪋧𪍼𪎯𪏡𪒖𪒣𪒐𪓸𪔮𪕵𪕾𪕽𪕻𪕸𪖰𪘴𪘶𪘰𪘀𪘮𪘷𠫎𠮗𠮘𡅼𡅾𡅽𡅿𡔏𡚤𡤱𡤮𡤯𡤲𡴬𡿔𡿜𡿘𢀎𢆃𢆄𢌒𢥲𢥼𢥾𢺦𢺠𢺞𢺢𣄪𣌘𣡍𣡘𣡛𥤔㱎𣫦𤅤𤅨𤅠𤅢𤓗𤕋𤣠" ++
   "𤬢𤴅𤼙𤼚",
   "𤿃𥃘𥃜𥍏𥗷𥗴𥗸𥤓𥩐𥷰𥷩𥷯𥷭𥷪𥷸𥸅𥷲𥽲䌱𦇹𦇳𦇶𦇲𦇷𦉦𦉥𦍀𦌾𦣑𦣓𦨄𧅙𧅠𧅛𧅝𧅞𧅩𧅜𧅡𧅪𧅟𧕎𧕜𧕠𧕣𧗛𧟊𧟉𧟈𧢥𧢣𧮎𧮇𧮉𧮅𧮆𧮏𧮊𧮐𧲘𧲛𧹇𧹉𧹈𨇥𨇪𨇭𨏰𨏯𨏲𨏬𨑀𨙠𨙟𨟫𨟬𨤀𨤁𨯢𨯟𨯠𨯡𨯣𨳃𨷫𨷪𨽡𨽱𩁫𩁨" ++
   "𩁩𩁧𩆰𩆱",
   "𩆲𩉑𩍴𩕿𩖄𩙓𩙔𩟰𩟴𩟱𩠷𩦿䮼䮻𩦽𩦾𩦷𩧀𩦺𩦸𩦼𩦻𩫫𩯧𩰝𩰜𩱣𢑋𩴸𩴶𩴴𩴷𩼆𩼜𩼂𩼝𩼞𩻠𩼑𩼘𩼡𩼠𩼐𪆽𪆮𪆵𪆸𪆹𪆾𪇄𪆼𪆺𪊃𪋪𪋬𪍾𪍻𪏥𪒧𪒞𪒚𪔯𪔱𪖃𪖵𪙆𪙁𪙃𪘽𪙂𪘻𪙇𠥫𠧐𡆎𡬑𡬘𢆃𢑌𣄫𣡏𣡞𣡣𣡫𣤿𣫩𤅭𤅫𤅪𩼪" ++
   "𤓠𤓝𤓡𤓞",
   "𤓜𤕍𤜖𤣣𤫥𤫤𤼝𥝋𪛁𥩎𥫖𥷽𥸇𥷾𥸃𥸋𥷿𥽺𥽷𦇻𦍃𦏭𦦼𤓟𦨅𦫆𦫅𧅴𧅳𧅲𧅸𧕳𧕺𤼜𧕶𧕵𧕷𧟏𧟎𧟍𧢨𧮘𧮒𧮔𧲚𧾴𨇫𨇴𨇳𨇮𨇲𨇰𨙤𨰅𨯻𨯼𨷳𩁬𩆺𩍹𩍾𩍸𩏴𩐖𩙗𩧈𩧃𩧎𩪳𩫭𩫮𩯱𩯸䰔𩱤𩱥𩼵𩼩𩼬𩼱𩼫𩼮𩼥𪇚𪇠𪇔𪇡𪇝𪏧𪐒" ++
   "𪒮𪒯𪖆𪖅",
   "𪗑𪙘𪘿𪙒𪙋𪙓𪙐𪙖𪙗𪛍𪛋𠠱𠠰𠧑㘜𡆒𡆐𡆏𡆓𡆑㝲𢌓𢑿𢺬𤅰𤓥𤬣𤬤𤴈𤴇𤼟𤼠𤼡𥃡𥍔𥍗𥍕𥗺𥜸𧆆𥜷𥩓𥽾𥽻䌴𦇽𦇼𦍆𦤲𦫇𧅱𧆃𧅯𧅾𧅽𧆁𧅼𧖊𧕾𧖀𧕽𧕿𧖂𧟔𧟐𧟒𧥕𧮛𧮚𧹎𨇱𨏸𨏽𨙞𨙦𨤅𨰊𨰋𨰎𨰍𨰑𨰉𨰐𨰌𨰒𨳄𨷷𨷸𨽪𨽫" ++
   "𩇀𩇂𩎅𩎀",
   "𩎄𩎁𩇄𩖋𩖍𩖎𩪷𩪹𩫯𩯻𩯿𩱧𩱨𩱩𩴿𩼼𩽌𩼽𩼾𩼿𩼻𪇿䴎𪇶𪇮𪇼𪇸𪈁𪇺𪊈𪎀𪐑𪓾𪔀𪔵𥀼𪖽𪖻𪙜𪙚𪛑𪛐𠨋𣡳𡤹𡬚𡿣𢆇𢍷𢍸𢺱𣡪𣡴𣫫𤅻𤖥𤣤𤴋𤴎𤴌𥜹𥸐𥸑𥸖𥾁𥾀𦇾𦈁𦈀𦍇𦏯𧆈𧖋𧖍𧖇𧖅𧖏𧖄𧖈𧖎𧖌𧟗𧟖𧮟𢆈𨈃𨏾𨟯𨤉𨤈" ++
   "𨰠𨰤𨰟𩁰",
   "𩉖𩏷𩏸𩏶𩖐𩙞𩟷𩧖𩧕𩪻𩫰𩰁𩱬𩵁𩵂𩽏𩽓𩽘𪈒𪈄𪈓𪈅𪈍𪎂𪎁𪒵𪒺𪖾𪙥𪙣𪙮𪙪𪙬𪛄𠥬𧮥𡬒𢑍𣌟𣡷𣡸𣱄𤅼𤓫𤓪𤓬𤖧𤜙𤼣癴𥘁𥸜𦈃𦍈𦣚𧆑𧆒𧖖𧖗𧖑𧖓𧟘𧟕𧥗𧥘𧮢𨈅𨏺𨤌𨤊𨰮𨰩𨰯𨳅𩁲𩇈𩉚𩉙𩎉𩎈𩧛𩧙𩧚𩪼䯬𩰆𩰅𩱯𩱭𩱰" ++
   "𩽠𩽞𩽣𩽚",
   "𩽟𪈙𪈝𪈛𪈢𪈜𪈞𪋷𪎄𪐕𪒸𪓁𪔁𪔊𪗒𪙵𪙴𪙲𠫐𡬛𢀐𢍹𤓭𤮹𤼤𤿅𥘃𦍊𦣷𦧁𦧂𧆔𧖙𧖚𧥚𧮨𧰥𧲞𨑁𨰲𨰳𩇋𩇊𩇌𩖓𩧠𩱱𩽫𪈫𪈩𪈚𪈦𪈧𪈪𪋸𥀽𪙶𡔘𣡺𤅿䉹𦏰𧆚𧆖𧖞𧖝𧗜𧟚𨈋𨐂𨑂𨙧𩎋𩧢𩽱𪈯𪈮𪓆𪖎𪙻𪙷𪙸𪙼𣡼𦈇𧆗𧯙𨤍𨤎𩧣" ++
   "𩧤𩫳𩱵𪈷",
   "𪈵𪖏𪚀𪙿𪛔𢺴𪏬𨽵𤴐𦉩𧖤𧟛𩇑𩎍𩽶𪈹𪚄𪚂𠫒𤓮𤴑𥾄𨽴𩎏𩎎𪈻𠣋𪚈𪚆𣍜𥎤𩁵𪚋𡔙𧲟𩧥𪉀𤴒𪋻𪚌𥎥𩱷𩱸𪛖𧟟𩇒𡔚𧮩𩇓𪓊𦧄𧢱𩙤"]

end Catalog.Charset
