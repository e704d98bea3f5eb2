/-!
This module contains the characters of plane 5 of CNS 11643 in their rows of 94.
-/

namespace Catalog.Charset

def cns5 : Array String :=
  #["𠃑𠃋𠃉𠄌𠀀𠂇𠄍𠄏凵𢎘𠃒𠄑𠁾𠫓𡕒𡳾𢖩𣥂𠀉𠃖𠓝𠓜𠔂𠕳𠙶𠚧𠚨𠠳𠣌𠨍𠨬𠬛㕚𠬝𠮙𡈾𡴭𡴯𢎙𣎳𣦶𣬛𤓯𤣩𠀔𠂔𠃡𠔆𠕊𠕄𠘱𠙺𠚭𠚮𠚱𠠸𠠷𠥽𠥾𠨭𠨲𠬣𠬦叱𠮠𡚨𡤿𡦼𡯄𡴻𢀙𢀘𢆳𢎪𢒾𢖬𢨥𢩦𢩫𣥃𣦵𣫬𣱶㲼𤘔𡗜𤜜𤜝𦓐𦘒" ++
   "𦫳𨙩䦹𨸑",
   "𨸕𨸐𨸓𠂤𠂥𠇐𠆺𠇋𠕻𠚆𠚻𠚺𠛃𠚹𠛀㓞𠠹𠠻𠡁𠣑𠣏𠣒𠤮𠥮𠦌𠦈𠨵㕃𠨺𠨻𠨸𠨹𠬮𠬬𠯈𠮵𠮭𠮰𠮫𡆳𡆩𡚻𡚹𡭚𡯍𡰫𡴅㞬㞪𡵑𡵋𡿪𡿭𢀶𢁢𢁖𢁕𢁤𢁘帇𢇚𢇘𢎭𢎫𢓀𢓃𢖳𢖷𢖺忋㣾𢗇𢖵𢦎𢩳𢩬𢩴扝𢩲𢩱𢪂𢩰𣄿𣎺𣎸𣦷𤜣𤜡𤜫𤜦" ++
   "𤜢𤴥𥃤𥐕",
   "𦓤𦘳𦘪𦘲𦘩𦫻𧥛𧥜𧰨𨙯𨙭𨙫𨙮𨸖𠀢𠄖𠅈𠇘𠈀㑁𠒀𠓤㒴𠓧𠔌𠕓𠖷𠫨𠛑𠛥𠛘𠛖𠛚𠛙𠛕𠛦𠛔𠛓𠡄𠣖𠣗𠤓 𠥰𠦒𠧛𠧚𠩁𠩃𠬳𠯶𠯔𠯝𠯐𠰄𠯙𠯛𠰅𠯓𠯡𡊀𡉷𡊁𡊂𡊃夆𡕡𡕠𡛘𡛖𡛗𤘅𡥍𡥈𡯖𡯏𡯙𡯘𡰽㞳𡵔𡵛𡵜㞴𡵙𡵘𡵚𡵕𡵖𡶂" ++
   "𡿰𢀜𢁪𢁩",
   "𢁱𢁧𢁬𢁮𢁹𢆋𢆸𢇧𢇨𢇤𢇦𢇥𢇰𢎃𢎷𢎻𢎹𢏅𢑓𢓄𢓆𢓋𢗈忹𢗉𢗛𢦔𢪕𢪈𢪍𢻬𢻮𢻱𣄮𣅉𣍟𣏑𣏋𣢅㰝𣥊𣥇𣥋𣦻𣧄㱼𣬂𣲂𣲑𣲏𣲒𤆏𤆑𤆴𤆒𤓴𤖪𤜵𤜷𤜽𤜼𤜯𤜰𤣸𤣯𤬦㽕𤴦𤴧𤽁𤿆𤿇𥃫𥃨𥃪𥐚𥐙䄦𥤣𥤤𥸥𦘵𦘴𦨇𧈝𧟡𧮫𨑠𨙷𨙽" ++
   "䦼𨸞𨸚𨸝",
   "𠁫𠄭𠅌𠈪㑊𠈕𠈬𠈆𠈈𠈊㑎𠕖𠖄㓉𠗆𠛵𠜉𠛸𠛨𠛻𠛩𠛶劷劸𠡒劶劺𠡔𠡑𠤹𠤺𠦘𠩎㕻𠰶𠰌𠰐𠰲𠰑𠰘𠰜𠰚𠰙𠰋𠰏𠰝𠰡𠰓𠰛𠰕㘠𡇑𡇈𡊍𡊵㚉㚕𡗸𡛠𡛡㚾𡛞𡛾𡛜𡜁𡛽𡜀𡧗𡧖𡧙𡭥𡯒𡯜𡯡𡯞𡱂𡱋㟃𡶎𡶑𡶋𡶐𡶈𡶉𡶄𡶪𢂍𢂏𢁽𢁿" ++
   "𢁻𢂀𢁾𢂃",
   "𢂁𢂆𢂊𢆽𢆾㡷𢇴𢇳𢈂𢇶𢇵𢇲𢈄𢌽𢏆𢒉𢓔𢓖𢓒𢗺𢘆𢘌𢘊𢘏𢨯㧔𢪷𢪾𢪼𢫢𢼆𢻷𢼇𢻶𣬵𣅟𣅥𣅤𣅡𣅚𣅝䏙𣏗𣏕𣏞𣏡𣏠𣏙㭌𣏚𣏟𣏶𣐃㰠𣢓𣢋𣢑𣢒𣢊𣢉𣢏𣥖𣥙𣧊𣧌㱛𣧐𣧍𣧖𣧋𣪃𣪂𣬆𣬪𣬬𣬫𣬩𣲽𣲳𣲾𣳀𣲵𣲶𤆝𤆟𤘠㸭𤘞𤘜𤘲" ++
   "𤘟𤘫𤘡𤘦",
   "𤘤𤘝𤘧𤝛𤝙𤞀𤝕𤝐𤝚𤝖𤝣𤝒𤝘㹣𤜹𤣹𤬨㼘𤮼𤯖𤰅𤰠㽴𤴳𤽆𤽂𤽃𤽇𤿋𥁂𥁅𥃽𥃴𥃹𥃺𥍞𥐝䄨𥝘𥝕𥩗𥩘𥫙𥫜𥫛𥸧𥾅𥾇𥾊𦊋𦍏𦔰𦔯𦙨𦙉䏚𦙈𦘿𦙋𦙜𦙆𦙀𦨍𦬛𦬝𦬗䒤𦬢𧖧𧘈𧠆𨑽䢎𨑣𨑤𨑿𨑫𨑼𨑨𨑥𨑪𨚘𨚙𨚮𨸫𨸭𨸱𨸮𨸯𠁭" ++
   "𠄱𠈭𠈹𠈸",
   "㑛𠈺𠈵𠉢𠓪𠓫𠔕𠗌𠗈𠗍𠗛𠗋𠜑𠜦𠡢𠡞𠡡𠥁𠤿𠥵𣥥𠭉𠧫𠨚𠩗𠱫𠲩𠱔𠱢𠲪𠱘𠱲𠱣𠱳𠲋𠲌𠱜𠱑𠰖𠱠𠱡𠱞𠱝𠱤𠱓𠱟𠱛𠱮𠱕𠱒𠱨𡇒𡇖𡇓𡊸𡊻𡋫𡋨𡊶𡋪𡋧𡋩𡖑𡘐𡘎𡘏𡜋𡜃𡜫𡜉𡜨𡜬𡜥𡜧𡜏𡧩𡧬㝓𡬧𡭳𡯢𡯦㞁𡱡𡱑𡴒𡴎𡶭𡶯𡶱" ++
   "𡷓𢂔𢂒𢂐",
   "𢂝𢂓𢂕𢂘𢂗㢀㡼𢈇𢈋𢈈𢏙𢏕𢓗𢓟㣝𢓞𢓣𢓢㣞𢙇㤢𢘽𢘸𢩄𢨺𢪸𢬪𢬀𢫳𢫲𢫫𢫺𢫭𢫬𢫿𢫻挆𢭎𢫯𢫷𢼐𢼑𢼌𢼋𣃝𣄰㫛𣅺𣅷𣌨𣌧𣍥𣐎𣐋𣑁𣐓𣐏𣐒𣐰𣢠𣢣𣢞𣢗𣢡𣢝𣢛𣥣𣧣𣧤𣧦𣧧𣧝殅𣧬𣧥𣧱𣬻𣬹𣬺𣬼𣬽𣭇𣬿𣭄𣱈𣱉𣱠𣳣𣳩𣳰" ++
   "㳚㳛𣳲𣳭",
   "𣳬𣳦𣴖㳗𤆼𤆾𤇀𤇠𤔀𤔂𤓾𤕞𤖳𤖷𤘺𤘹𤘾𤘸𤘽𤙏𤝮𤝟𤞁𤞂𤝱𤝻𤝹𤝷𤝳𤝯𤞗𤝾𤣼𤤑𤤲𤤱𤤐𤫬𤫫𤬬𤬭𤯚𤰮𤰬𤰪𤰳𤱋𤴘𤵂𤴻𤴿𤵁𤵃𤴼𤽌𤽊𤽉𤽖𤿏𥁇𥁈𥁆𥄛𥄑𥄔𥄝𥄗𥄞𥄋𥄜𥄒𥄖𥄍𥄕𥄓𥄘䀚𥎬𥑄𥐬𥑅𥝦𥝮𥝥𥝨𥞄𥤸𥤻𥤺𥤿" ++
   "𥫟𥫝𥫞𥫢",
   "䇖𥸬𥸯𥾏𥾐𥾌𥾓𦈥𦊈𦊧𦏷𦒻𦔸𦔹𦔷𦘔𦙮𦙻䏞𦙬𦙿𦙸𦙺𦙯䏥𦣾𦭈𦭋𦭁𦭉𦬻𧈭𧗣𧘚𧘍𧘓𧘑𧘜䙲𧢵䚯𧰩𧲡𧴤𧾻𨊡𨒃𨒍𨒇𨒅𨒊𨒣𨒉𨒄𨒢𨚱𨚰𨚯𨚶𨛉𨛊𨛈𨚴𨱙𨳉𨹁𨹌䧄𨹅𨹚𠂹𠊔𠉮𠊢𠉧㑣𠊣𠉶𠉬𠉤𠊥𠈰𠊦𠉩𠊤𠒐𠕟𠕠𠗚𠗘" ++
   "𠗝㓬𠝙𠝛",
   "𠝚𠜹𠜴𠝄𠜳𠜼𠝘𠝪𠡯𠡲𠡰𠡱𠡮𠣰𠣫𠥉𠥌𠧵𠨠𠩪𠩲𠭋𠭝𠱐𠳹𠳺𠳻𠴣𠲷𠴢𠲵𠳄𠲴𠳯㖘𠳍𠳰𠲸𠳋𠳱𠲺𠴃𠳸𠲶𠲼𠲳𠴡𠳷𠳂𠲾𠳉𠲽𠳎𠲹𠳇𠳊𠳌𠴦𡇤𡇠𡇰𡋬𡌤𡌘𡌯𡌥𡔨𡔢𡕪𠅗𡖔𡖒𡖜𡘢𡘰𡘝𡘣𡜵𡜳𡜯𡝍𡜱𡝛𡝚𡜲𡝜𡝙𡝝𡥩𡥭" ++
   "𢈲㝘𡨊𡨠",
   "𡨟𡨍𡯨𡯬𡱷𡱰𡱱𡷸𡷖𡷙𡷞𡷕𡷡㟓𡷢𡷝𡷠𡸎𡸈𡷜𡸊𡸌𢂴𢂱𢂶𢂼𢈝𢈤𢈙𢈛𢈢𢈚𢈜𢈡𢏦𢏤𢏧𢏪㣢㣣𢓰𢓵𢓯𢙂𢙮𢘼𢚗𢚌𢚁𢙱𢛎𢚺𢙺𢙾㥔𢙲𢚻㤯𢙳𢚂㦶𢦺𢦸𢩋𢩈𢬫𢫴𢬬𢭂𢭈𢭄𢭅𢬼𢬷𢬳𢭁𢬲𢮇𢼧𢼣𢼭𢼟𢼬𢼨𣁵𣁴𣃧𣄲𣄱𣆙" ++
   "𣆖𣆘𣆝𣆒",
   "𣆔𣆕𣆗𦚹㬵𣐑𣐻𣑹𣑂𣑃㭝𣑸𣢬㰩𣢱𣢴𣢳𣢯𣢪𣢲𣥨𣧲𣧾𣧸𣧹𣧿𣧵𣧷𣧽𣨀𣪈𣭮𣭝𣭣𣭠𣱡𣴷𣵱𣴣𣴢𣴟𣴥𤇽𤈑𤈣𤇰𤇯𤔎𤔌𤖺㸟𤙒𤙕𤙓𤙔𤙑𤙘𤞰𤞟㹲𤞡𤞚𤞾𤞠𤤷㼋𤫱𤫲𤬴𤬷𤬵𢎌𤯟𤱌𤱎𤱤𤱣𤰶𤵘𤵨𤵛𤵟𤵙𤵥𤵠𤵞𤿕𤿖𥁎𥁒" ++
   "𥄵𥄹𥅘𥅁",
   "𥅗𥄸𥄽𥄲𥅄𥄳𥍣𥍢𥎸𥎰𥎱𥑍𥑣𥑰𥑋𥑏𥑎𥑓𥑇䂢𥑔𥑒𥑙𥑾𥘫𥘮𥝿𥝾𥞁𥞃𥥇𥥔𥥍𥥌𥥋𥥗𥩥𥩤𥩡𥩢𥫰𥫳𥫹𥫴𥫵𥫯𥫸𥫼𥫷𥫽𥬗𥸴𥸶𥸸𥾯𥾮𥾬𥾢𦈨𢻂𦊜𦊳𦊐𦐆𦐄𦐋𦐅𦕀𦕏𦚫𦚝𦚸𦚲𦛒𦛏𦚢䏬𦚥𦚩𦚧𦛐𦤂𦧏𦧐𦨖𦨙𦭵𦭱𦮑𦭲" ++
   "𦮎𦭭𦮈𦭳",
   "䒻𦮁𦭶𦭻𦭿𦮐𦭸𧉋𧉈𧉛𧉑𧈽𧉀𧉆𧉍𧈻𧉊𧉁𧈾𧉎𧖬𧗦𧗩𧘩䘡𧘳𧘮𧘞䘟𧙧𧘢𧘧𧟧𧠋𧥦𧮭𧮮谸𧰫𧰪𧴬𧴭䞑䞖𧺏𧺓𧿆𧿅𨈕𨈓𨊱𨊩軎𨒨𨒫𨒾𨒬𨒩𨒦𨓁𨛌𨛑𨛓𨛤𨛋𨛡𨛒𨛣𨛏𨛐𨛥𨜎𨳌𨳊𨳋𨹜𨹡𨹝𨹙𩁷𩚄𠁁𠃽𠄚𠅣𠊶𠊲𠋩𠋧𠋖" ++
   "𠌰𠋬𠋝𠋨",
   "𠊰𠊵𠋡𠒘𠒙㒼𠖓𠗥㓘𠝠𠝞㓴𠡻𠣱𠣳𠩿𠭣𠭗𠭘𠴹𠶧𠴵𠵠𠵑𠵢𠵂𠴼𠵃𠶫𠶩𠶴𠵹𠵪𠴻𠶪𠴳𠴷𠴧𠶨𠵰𠴯𠴶𠶵𠴰𠴺𠴸𠶱𠶬𠴮𠵵𠶰𡇷𡈀𡇱𡇳𡍠𡍡𡌲𡌭𡍊𡌪𡕧𡖢𡖣𡖞𡖤𡙄𡘲𡞛𡞘𡞙𡞚𡝦𡝢𡝫𤕢𡝧𡨻𡨣𡨩𡭾𡯳㞅𡯵㞃𡲀𡱾𡱼𡱿𡱽" ++
   "𡲁𡸥𡸩𡸗",
   "𡹣𡹧𡹥𡸪𡹨𡸦𡹤𡸛𡹢𡹩𡿾𢁄𢁂𢂷𢃒𢃔𢃗𢃜𢃑𢃕𢃍𢃘𢆚𢉂𢈵𢉘𢈴𢈼𢈻𢈾𢈽𢉚𢉁𢈸𢉅𢈳𢌦㢺𢏷𢏯𢏰𢏮𢒝𢔆𢔑𢔈𢔂𢔊𢔇𢚑𢚎𢚅𢛨𢜗𢛔㥩𢛄𢛕㥅𢛘𢚀𢛞𢝂𢧇𢦿𢮍𢮉𢮐𢮚𢯈𢮒𢮡𢮄𢽗𢽇𢽷𢼺𢽐𢽂𢽃𢾣𣁷𣆲𣇢𣆽𣍴𣒂𣒸㭬𣒺" ++
   "𣒹𣒻𣒇梎",
   "𣒃𣒷𠁃𣣎𣢺𣥳𣨉𣨊𣨋𣨇𣨅𣨎𣪗𣭷𣭻𣭺𣭴𣭹𣶆𣷵𣶥𣶝𣶾𣶖𣷡𣶤𣶡𣷶㴄𣶍𣶋𣵸𣶘𣸊𤉝𤈧𤉟𤗀𤗁𤙭𤙞𤚊𤙢𤙤㸺𤟀𤟊𤟑㹹𤟇𤟎猉𤟅𤤶𤥗𤥷𤫶𤫷𤭕𤭄𤬾𤭂𤭒𤯡𤰈𤱨𤱧㽝𤲒𤵾𤶓𤵹𤶁𤵽𤵻𤶔㾊𤽦𤿙𤿠㿼𥁟𥅟𥅞𥅨䀧𥆈𥅪𥅬𥅦" ++
   "𥅧𥆉𥅠𥆅",
   "𠌪𥍨𥎹𥎺𥎾𥑯𥒀𥑴𥒁𥑺𥒜𥑳𥒂𥑿𥒧𥑹𥑸𥑽𥒨𥑼𥙨𥙎𥞞䅆䅀𥞘䄿𥞅𥞜𥟅𥞚𥥨𥥥𥥧𥥡𥥠䆝䇋𥩻䇡𥬙𥬎𥬱𥬒𥬐𥬕𥬿𥬝𥬞𥹍𥹈𥹅𥹂𥹉𥹊𥹇䉿𥹌𥿍𥿕𥿄𥿊𥿃䍆𦈩𦊴𦍭𦍦𦍪𦐕𦓓𦓬𦕕䐚𦛖𦛘𦝑𦛠𦜃𦜄𦛚𦛪𦜂𦛓𦛤𦛥𦤻𦥦𦨬𦨡" ++
   "𦨦𦫔𦫕𦫙",
   "𦯕𦯫𦯅䓓𦰧𦯰𦮹𦰘𦯮䓐𦮷𦮻𦯯𦮸𦯟𦯚𦯣𦯉𦯬𧆤䖎𧆣𧉞𧉡𧉢𧉣𧊎𧉩𧉫𧊅𧊍𧉤𧉭𧙌𧙉𧙇𧙈𧙂𧙅𧙛𧙝𧙆𧠓𧠚𧠎𧠏𧠛𧠒𧣃𧢾𧢽𧥹𧥼䛃䚶𧦀𧥵𧦛訯𧥴䛀䚸𢁁𢒔𧰰𧲧𧲥𧲤𧴺𧹛𧺟𧺨𧺳𧺡𧺧𧺲𧺝𧺣𧺢𧿯𧿙䟙𧿕𧿝𧿚𧿮𧿗𨈚𨈙𨈘" ++
   "𨊳𨊿𨊻𨋀",
   "𨊹𨊸𨋕𨐑𨐐𨓃𨓂𨓩𨓍𨓥𨓊𨓇𨓨𨛱𨜌𨛯𨛮𨛳𨜍𨛶𨛰䣬𨟵𨟴𨟸𨟾𨤑𨤢𨥂𨱜𨱚𨱝𨳑𨳐𨹵𨹻𨾉𩑍𩚉𩚒𩚌𩚈𩡧𩡨𠌡𠋲𠌉𠋸𠋰𠋳𠋵𠋻𠋷𠋯𠌋𠒢𠗵𠗳𠗴𠗲𠚘𠝨𠞀𠞅𠞎𠞏𠋴𠞆𠞤𠢆𠢉𠢇𠢅勜𠢈𠫿𠭦㗌𠷃㖢𠷄𠸻𠷧𠷸𠷻㖶𠶾𠷆㗅㗆" ++
   "𠷼𠷀𠸳𠷉",
   "𠷾𠷚𠷌𠶻𠷽𠷟𠷍𠷂𠷈𠸲𠸭𠷒𠸱𠷓𠸮𠷏𡇿𡈉𡇼𡍲𡎪𡎫𡎧𡍻𡍶𡎨𡎬㚃夡𡖪𠨃𡖬𡖭𡖫𡙐𡙘𡟝㛸𡞮𡞢𡞫𡟣𡞯𡟠𡟤㛶𡞧𡞪𡟢𡟡𡟟𡞭𡟥𡟑𡞬𡟕𡞣𡞟𡥹𡥶𡩃𡨽𡩇𡩄𡨿𡩛𡭿𡲚𡲜㞛𡴞𡺈𡹪𡹶𡹲𡹰𡹾𡹬𡹯𡹵𡹷𡹸𡺊𡹹𡺔𢀁𢄅𢃱𢃮𢃯" ++
   "𢄄帿𢃺𢄇",
   "𢃴𢃵𢆜𢉭𢉩𢉦𢉢𢉆㢍𢉥𢉝𢉞𢉟𢎎𢐂𢐆𢐄𢐃𢑢𢔧𢔡𢔠𢔤𢔩𢔱𢔣𢔢𢛜𢝍𢛥𢛓𢛮𢛦㥖𢜶𢝀𢠿𢜽𢝄㥛𢝟𢜩𢝉𢞊𢜪𢞇𢝌𢜱𢝈𢜫𢜻𢝁𢛉𢜴𢝓𢜵𢝇𢜸𢧑𢧒𢩑𢩕𢩒𢩓𢮏𢯴𢱇𢰍𢰜𢯻𢰙𢯷𢯹𢯵𢯩𢰊𢯮𢰋𢯽𢰆𢰂𢰖𢰘𢯰𢻔𢽦𢽪𢽵𢽶𢾀" ++
   "𢽭㪖𢽩𢽧",
   "𢽨𢽝𣂤𣃾𣃽𣇬𣇩𣈡𣇫𣇧𣇲𣈠𣍺𣔭𣔮𣓊𣔯𣓈㭾𣓋𣓃𣒄𣓒𣓆㮁𣓏𣓕𣓔𣓝𣔫𣖣𣓛𣔬𣔓㰵𣣑𣣌𣣕𣣉𣣏𣣒𣥻𣥼𣨣𣨝𣨜𣨞𣨢𣨤𣨠𣨘𣨡𣮈𣮊𣮔𣮏𣮎𣮐㲛𣮧𣱤㴀𣸘𣸔𣸝𣸅𣷿𣸛𣸚𣸙𣸃𣸎𣹇𣸄𣹚𣸇𣸠𤉪𤉦𤉺𤉥𤊯𤗍𤗏𤗑𤗎𤙟𤙷𤙴𤚈" ++
   "𤙵𤚉𤙲𤟆",
   "𤟪𤟠𤠇𤟦𤟥𤟝𤟣𤟚𤦮𤥾𤥽𤥿㻓𤧙𤫺𤫻𤭍𤭔𤭑𤭐𤶘𤶕𤶝𤷁𤶚𤶛㾟𤶜𤷗𤶤𤶖𤶠𤼱𤿩𥁮𥆚𥆥𥆔𥆦𥆙𥆋𥆘𥆑𥆌𥆡𥆣𥇆𥍯𥍭𥍪𥍬𥍱𥍮𥏟𥒬𥒪䂱𥒵𥒭𥒲𥒳𥒫𥒶𥓇𥓆𥙬𥙰𥞳䅋𥦌𥦁𥦃𥥽𥦅𥦐𥦢𥦍𥦏𥥾𥦊𥥿𥥶𥦇𥥸𥪀𥪂𥪁𥪃𥭚𥬴" ++
   "𥬬𥬪𥭀𥬭",
   "𥬳𥬫𥭋笿𥬼𥹚𥹷𥹠𥿺𥿹𥿼䋖𥿵𥿨𦀉𥿧𥿦𥿩𦈲𦈬𦊽𦊼𦍺𦍾𦍹䎉𦐣𦐰𦐨𦓔𦫎𦓱𦓰𦕠𦕥𦚨𦜊𦜛𦜒𦜇𦝏𦜎𦝒𦜖䐀𦝓𦝔䐋𦝖𦥭𦥲𦨯𦰪䓜𦱣𦲄𦲯𦱅𦱰𦱖𦰖𦰽𦰸𦱯𦱷𦰮𦰱𦱌𦱟𦱵𦰹𦰺𦰬𦰭𦰿𦰯𦰰𦰾菐䖐𧆲𧊷𧊏䖱𧊖𧊞𧊗𧊕𧊥𧊘" ++
   "蛧𧊣𧊚𧊭",
   "𧊦𧊶𧊙𧊯𧊬䖪𧊟𧊔𧗫𧙯𧙭𧙾𧙬𧙡𧙣𧙫𧙞𧘾𧙤𧚭䙽𧠠𧣑𧣕𧦮𧦯𧦟𧦨𧧊𧯡𧰹𧰸𧰻𧲭𧲵𧲯𧲱𧲮𧲴𧲰𧵋𧵑𧵌䝩𧵠𧺾𧺹𧺷𧺶䞡𧺽𧺸𧻁𧿷𧿳𧿴𧿻𧿽𧿵䟧𧿺𨀔䟬𧿲𧿼𨀀䟟𨈫𨈩𨈮䠳𨋗𨋛𨋙𨋘𨋦𨋖𨋑𨋧𨋐𨋜𨓭𨔚𨔙𨔖𨓬𨓯𨓮𨓴𨔯" ++
   "𨜰𨜙𨜘𨜑",
   "𨜖𨜒𨜐𨜔𨠌𨠍𨤐𨤩𨤨𨱥𨱦𨳞𨳟𨳠𨳙𨳛𨳘𨳣𨳗𨺦𨺧𨺿𨺨𨺟𨺡𨺢𨺭𨺣𨺠𩂃𩂅𩂂𩂄𩇮𩉝𩎒𩑕𩑓䪲𩑑𩑒𩑐𩖝𩚇𩚗𩚛𩚝𩡩𩨑䯮𩱺䰲𣉄𠃆𠍀𠌮𠍨𠌭𠌴𠌲𠍩𠌱𠍪𠌾𠍯𠍵𠓶𠔠𠔨𠕧𠗻𠗾𠗼𠗽𠗿𠗺𠞬𠞯𠞱㓼𠞿𠞾𠞧𠞪𠢔𠢓𠢙㔪𠣺𠥖" ++
   "𠨢𠪑𠪒𠬈",
   "𠬆𠷖𠸷𠹋𠻎𠻐𠸹𠹤𠻏𠹆𠹦𠹖𠹃𠹊𠹘𠹥𠹚𠹛𠹕𠹐𠹌𠻍𠹑𠹇㗓𠹓𠹢𠻌㗗𠹿𠹍𡈊𡈌𡈏𡎻𡎹𡏫𡎮𡏁𡏪𡎾𡎿𡎺𡎷𡎳𡏩𡕮𡖯𡖳𡖲𡙨𡙩𡙪𡟞𡟫𡠑𡟭𡟩𡟷𡟴𡟪𡠒𡟨𡠓𡦎𡦆𡩣𡩥𡮙𡳂𡲮𡲰𡲭𡺴𡻑𡺭㟳𡺽𡺷𡺫𡺯𡻁𡺵𢄏𢄎𢄜𢄓𢄊𢄞𢄔" ++
   "𢄚𢇋𢊇𢊓",
   "㢑𢊄𢊅𢊒𢊀𢌫𢍣𢐊㣀𢑦𢔴𢔳𢕍𢞉𢝗愗𢝊㥣𢜹𢜿𢞐𢞏𢞲𢞟𢞕𢞡𢞜𢞎𢞠𢞮𢞖𢟊𢞬㥰𢞦𢞗𢞓𠎶𢧖𢧠𢧘𢩖𢱮𢱾𢱴𢱷𢲀𢱺𢱫𢱟𢱶𢲰𢱣𢾒𢾂𢾝𢾔𢾃𢾋𢾄𣁗𣂄𣂵𣄉𣇦㬂𣈥𣉑𣌾朡𣎅𣔿𣕂𣔸𣔺𣕎𣕅𣔹𣔷𣕄㮝𣖤𣔽𣕁𣣟𣣞𣣊𣣩𣣢𣣠" ++
   "𣦉𣦇𣨲𣨳",
   "𣪬𣫹𣬍𣮹𣹞𣹪㴵𣺁𣹩𣺬𣺀𣹵𣹱𣹶𣹯𤊶𤌃𤊿𤌁𤊲𤋄𤗛𤗜𤗘𩙲𤚵𤚨𤚏𤚞𤚎𤟞𤟢𤠠𤠝𤠚𤠙𤠫𤠘𤠐𤠎𤠤𤠟𤠓𤠵𤦃㻠𤧗𤬂𤬃𤭜𤭟𤯇𤲚𤲗𤲣𤷷𤷆𤷌𤷖𤷍𤷹𤷙𤷘㾚𤷑𤷎𤷕㾣𤷔𤷸𤽺𤽹𤽿𤿳𤿵𤿶𤿴𤿷䀅𥁹𥆜𥇟𥇵𥇿𥇑𥇚𥇏𥇍𥇞𥇘" ++
   "𣪭𥇠𥇾𥆞",
   "𥍵𥍳𥍲𥏘𥓐𥓖𥓗𥓊𥓍𥚊𥚉𥚋𥟓𥟚𥟎𥟒䅞𥟔𥟗𥟕𥟻𥟍𥟺𥟖䆦𥦛𥦞𥦝𥦤𥦟𥦥𥦨𥪏𥪌𥪕𥭠𥭕𥭜𥭯𥭑𥭡𥮧𥭞𥭢𥭔𥭮𥭒𥭘𥭭𥭟𥭬𥭐𥭝𥮎𥹲𥹸𥹵𥹶𥹼𥹾𥹽𦀕𦀔𦀝𦀜𦀣𦁗𦋈䍝𦋉𦋅𦎇𦎊𦎔𦐹𦑀𦐾𦐸𦓖䎸𦕷𦕸𦕽𦛝𦝞𦝷𦟔𦝦𦝟𦝳" ++
   "𦝲𦞗𦝚𦞖",
   "𦝝𦝥𦝰𦝵𦝴𦝜𦝠䐴𦝭𦥁𦨼𦨾䑯𦩉𦯤𦴌𦴕𦴎𦳔𦳇𦴔𦳛𦵟𦳭𦴉𦳏𦳿𦴚𦳵𦳮𦳥𦴍𦳟𦳬𦳗𦴬𦳍𦳣𦴀𦳫𦳽𦴏𦴭𦵐𦳾𦳄𦳡𦳹𧆻𧆼䖔䖓𧆺𧋐𧋖𧋎𧋡𧋕𧋏𧋓蜔𧋔𧖵𧚐𧚡𧚁𧚅𧙮𧚈𧚂𧚆𧚏𧚉𧚀𧚄裑𧠩𧠫𧠪𧠰𧣢𧣣𧣡𧧕𧧄𧧉𧧠𧧟𧧋𧧝" ++
   "𧧨𧧔𧨜𧮵",
   "𧮶𧯥𧱅𧱉𧱀𧱆𧱄𧱊𧳉𧳄𧳂𧵨賋𧶂𧵫𧵧𧵬𧵭𧵱䞒𧻗𧻒𧻙䞪𧺼𧻝𧻖䞧𧻘𨀠𨀖𨀘𨀕𨀙𨀧𨁐𨀝𨀬𨀜𨀩𨀫𨀤䟯𨀨𨈹𨋲𨋰軭𨋭𨋯𨋪𨌁𨒼𨕜𨕛𨕚𨔦𨝃𨜳𨜺𨜷𨜶𨜼𨜴𨝊𨜻𨜵𨜽𨝀𨜾𨜗𨠦𨠤𨠐𨠶𨠥䤢𨥦𨱿𨱺𨳻𨳽𨳼𨳺𨻖𨻒𨻈𨻂𨻇𨻍" ++
   "𨻁𨻆𨻌𨾡",
   "𩂕𩂔𩂗𩂖𩂓𩂡𩈉𩈈𩉧𩉥𩉢𩉡𩎗𩐁𩐙𩐘𩑜𩑧𩑬䪵𩒖𩑦𩑡𩑮𩑝𩑚𩖢𩖩𩖥𩖦𩖲𩖣𩚬𩚪𩚯𩚫𩚱𩛆𩚭𩚹𩡰䭵𩰌𩲁𩲃𩱾𩵑𩾙𩾔𩾕𪋾𪐘𠄅𠍲㒂𠎙𠒭𠘆𠟂𠟋𠟕𠟒𠟌𠟗𠟅𠟊勬𠢢𠢣𠢡勨𠢦𠢤𠣿𠤀㔵𠨆𠨥𠪟𠭿𠻪𠻫𠻞𠼘𠻠𠻨𠻟𠻱𠻬𠼚" ++
   "𠻦𠻡𠽝𠁷",
   "𠼞㗰𠾀𡈗𡐝𡏷𡏯𡏮𡏭𡏵𡐞𡖽𥟿𡖾𡙭𡙶𡡌𡠙𡡈𡠞𡡊𡡉𡠦𡦕𡪅𡩾𡪗𡩽𡭂𡮞𡰌𡰋𡰎𡳏𡻘𡻠𡻨𡻩𡻢𡻡𡻚𡻣𡻙𡻰𡻧𡻤𢄣𢄱𢄳𢄌𦧠𢄦𢄤𢄲𢄧𢄡𢄰𢆢𢇌𢊖𪎒𢊘𢊜𢊛𢍫𢐒𢐔𢕚𢕔𢕑𢕞𢕘㣰𢕙𢞚𢟲𢞭𢠠𢟱𢟰𢟳𢟴𢟩𢟾𢠮𢟨𢟧𢟿𢟵𢧥" ++
   "𢧧𢧦𢧩𢩘",
   "𢱬𢳙㨾𢳋㨹𢲾𢲵𢳑𢳂𢲶𢳓㨮𢻚㪢𢾮㪡𢾬𢾩𢾺𢾧𢾳𢾽𢾱𣄎𣄑𣄏𣉒𣉪𣉔𣉕𣉓𣉗㬈𣉛𣉘𣉙㬻𣖸𣖵𣖿𣗁𣖻㮷𣗃𣖭𣖨𣖮𣖪𣗐𣖱𣖼𣖷𣖰𣗺𣗻𣖹𣤇𣣼𣣿𣣲𣣸𣣴㱗㱰𣪮𣬏𣬐𩫁𣯇𣯆𣯎㲧𣯜𣻕𣻓𣼠𣻢𣻱𣻛𣻪𣻫𣻡𣻿𣻖𣻠𣻗𣻥㵔𤌛𤌐" ++
   "𤌏𤌎𤌹𤌊",
   "𤌔𤌌𤔣𤕚𤗢𤚓𤚰𤚫𤚽𤚱𤚍𤚭𤚪𤚬𤚼𤛉𤡇𤡢𤡀𤡄𤠿𤡃𤠽𤡠𤡟𤠺𤡂𤡞𤡝𤦼𤧠𤧮𤧫𤨍𤬉𤬌𤭩𤭴𤭧㼱甧𤲭𤷿𤸖𤸈𤸉𤸀𤷼𤸓𤸔𤸊𩠾𤸩𤸗𤸻𤷻㾿𤸎㿤𥀈𥈛𥈚𥈙𥈂䁊𥈗𥈇𥈓𥈉𥈊𥈒𥊪𥈸𥍻𥍼𥍺𥏪𥏫𥏯𥏰𥔉𥔂𥔁𥔫𥔇䃏𥔨𥓻𥔪𥓾" ++
   "𥔄𥔩𥔊禌",
   "𥛂禑𥚦䄔𢿆𡰇𥠊𥟽𥠆𥠍𥠉𥠋𥠀𥠅𥠽𥧕𥦿𥦺𥧇𥪘𥪚䈍𥮤𥮜𥮝𥮢𥮖𥮕𥮥𥮪𥮭𥮚𥮣𥮗𥮐𥮯𥮍䈁𥮨𥯮𥺣𥺙𥺡𥺜𥺤𥻋𦁖𦁈𦁙𦁊𦁜䋱𦁏𦁍𦁝𦈺𦋣𦋡𦋞𦎗𦎚𦑈𦑊𦑌𦑎𦑏𦑋𦑍𦑇𦑑𦓚𦓹𦓼𦓻𦓽𦓸𦓺𦖊𦖎𦖈𦖉𦖍𦖐𦖨𦜜𦞫𦞤𦞨𦞭𦞟" ++
   "𦞚𦞰𦞥𦟕",
   "𦞢𦞲𦞝𦞡𦤕𦥂𦥳𦦄𦧝𦩜𦩌䑶𦩋𦱧𦶨𦵿𦶍𦶋𦷷𦶩𦷴𦶚𦶌𦶕𦵾𦵷䔊䔃𦵱𦷽𦶈𦶙𦵭𦷔𦶑𦵽𦵣𦵵𦷹𦶎𦵴𦷙𦵦𦷺𦷵虠𧇁𧇉𧌃𧌬𧌴𧌗𧌉𧌄𧌆𧌚𧌎𧌧𧌅𧌇𧌙𧌔𧌌𧌝𧌢𧌣𧖻𧖼𧖺𧚩𧚵𧚬𧚪𧚯𧚷䘵䘶𧠽𧡅𧡈𧠼𧠾𧣬𧣭𧣩𧨊𧨋𧧸𧨄𧧶" ++
   "𧧹𧱓𧱒𧱠",
   "𧱣𧳎𧳍𧳐𧳌𧶇𧶍𧶝䝳𧹣𧻴𧻱𧻿𧻵𧻼𧻲𧻶䞱𧻺䞯𨀮𨁅𨁃𨁑𨁌𨁳𨁇𨁋𨁏䟴𨁄𨁍𨁎𨁊𨁁𨁒𨂟𨁔𨁙𨂢𨉋𨉈𨌍𨌟𨌈𨌎𨌝𨌄𨐘𨐛𨕦𨕢𨖃𨕧𨝢𨝏𨝎𨝧𨝓𨝍𨝌𨝨𨝑䣜𨝘𨝛𨝐𨝪𨠹𨠸𨦂𨦄𨦆𨲀𨲆𨴥𨴑䦙𨴎𨴕𨴏𨴘𨴍𨴓𨴖𨴙𨼈𨻷𨻻𨻼" ++
   "𨾴𨾾𨿁𩂦",
   "𩂥𩂢𩂤𩈒𩈎𩉺𩉸𩉽𩉾𩊁𩊃𩊀𩊂𩎛𩎙𩎜𩎚𩎡𩐚𩐜𩒊𩑹𩑳𩑵𩑼𩑸𩑠𩒃𩑰䪶䪽𩒇𩒄𩑻𩑾𩑴𩖹𩖸𩖷𩖵𩛌𩛎𩛑餄𩛋馛𩡾𩡺𩡷𩢌𩣡𩨠𩨞𩫂𩬏𩬀䯴𩬐𩰍𩰎𩲎𩲍𩲊𩲋𩲌𩲏𩵗䰵𩵕𩵛𩾬𩾧𩾠𩾞䲪𪊍䴟𪎓𪎔𪎒𠆁𠏖𠏃𠏤𠏢𠐉𠎿𠏈𠏇𠒵" ++
   "𠒲𠘌𠘋𠘊",
   "𠘅𠟓𠟦𠟩𠟰𠟪𠟧𠢱𠢳𠢴𠢰𠥜𠥝𠥞𠧀𠪯㕐𠮆𠮃𠮄𠽜𠽰𠾌𠽻𠽦𠽹𠽣𠿅𠽫𠽭𠽲𠽩𠽵𠾉𠿆𠾥𠏧𠽪𠾗𡑚𡑜𡑙𡐤𡐥𡐰𡑘𡐱𡕶𡗁𡚅𡙽𡡥𡢇𡡒𡡔𡢊𡡐𡢆𡡏𡡨𡦝𡪠𡪺𡪽𡪸𡮦㝻𡳞𡳘𡳑𡼓㠉𡼎𡼛𡼺㠇𡼜𡼒𡼖𡼚𡑈𢅋𢄷𢄶𢄸𢄺𢅉𢄼𢅊𢊱" ++
   "𢋂𢊵𢋄𢊶",
   "𢐞𢐟𢒯𢕫𢕯𢞒𢟤𢠬𢟯憄𢡏𢡒𢡐𢠺𢠷𢡇𢡤𢡀𢠼𢡅𢡁𢧳㦻𢳁𢲴㩋𢴪𢴢𢴩㩍𢴾𢴼𢴰𢿇𢿕𢿖𢿓𢿎𢿈𣁜𣁟𣁢㫂𣂽𣂿𣉜𣊶㬚𣊝𣉿㬒𣊔𣊁𣍇𣍆㬼𣎔𣙵𣘚𣘪𣘲𣘗𣘣𣙴㯃𣙶𣘮𣘥𣘠𣙱𣘖𣙰𣘬𣘯𣘟𣙤㯀𣤈𣤔𣤊𣤋𣩏𣩙𣩔𣩑𣪶𣯬𣯭𣯪𣻮" ++
   "𣽚𣽳𣽥𣽡",
   "𣽕𣽫𣽤𣽛𣽌𣽯𣾄𣽰𤍝𤍗𤍦𤍓𤎘𤎗𤔨𤗫𤗪𤗨𤗬𤗯𤛑𤛊犟𤛏𤛍𤛎𤡰𤡧𤡳𤡭𤡶𤡹𤡪𤢋𤡲𤡱𤡮𤡺𤨖𤨹𤨻𤬐𤮖𤭻𤭼𤭽𤲾𤹜𤸸𤸹𤸮𤸴𤸲𤹛𤸳𤸼㿥𥀎𥀏𥀐𥂇𥉛𥉓䁟𥉜𥈿𥉙𥉊𥉄𥉌𥉀𥉟𥉞𥉎𥉔𥉃𥊇𥎂𥎅𥔱𥕇𥔮𥔯𥕈𥔴䄘𠖟𥠲𥠶𥠳" ++
   "𥠱𥡀𥡁𥧝",
   "𥧒𥧙䆭𥧟𥧛𥧘𥧓𥧞𥧠𥧔𥧗𥧚𥪧𥯾𥯝𥱀𥯢䈞𥯖𥯞𥯯䈧𥯫𥯪𥯤𥯑䈘𥯬𥯺𥯙𥯳𥯡𥯜𥯥𥯟𥯔䈠𥰅𥻖𥻕𥻐𥻈𥻄𥻉𥻍𥻒𥻌𥻊𦂠𦂒䋴䌂𦂋𦂡𦂕𦂈𦂆𦂍𦂅𦂑𦂉𦂢𦋰𦋳𦋴𦋯𦌆𦎢𦑞𦑣𦑠𦑛𦑻𦑘𦑙𦑝𦔅𦔆𦔂𦔃𦔄𦖢𦖧𦖦𦖤𦖬𦖩𦟧𦠁𦟟" ++
   "𦟙𦟣𦠏𦤚",
   "𦥅𦥈𦥻𦦅𦦆𦧾𦧿𦩤𦩱𦩲𦩡𦩢𦩬𦩠𦩝𦩣𦩧𦸁𦸪𦸰𦸆𦹽𦸢𦺹𦸊𦸐𦶏𦺀𦸓𦸮𦸘𦸗𦸚𦸔𦹇𦹣𦸸䔤𦹿𦸡𦸷𦸱𦸛𦺥𦽬𧇓𧎈𧍮𧍜𧍴𧍔𧎃蝰𧍥𧍠𧍰𧍯𧍭𧍲𧍬𧍶𧍵𧍙𧏇𧗁𧗹𧛣𧛧𧛖𧛏𧛚𧛩𧛒𧡕𧡏𧡍𧡑𧡖𧣹𧣸𧤆𧤃𧤉𧣷𧣵𧩇𧩅𧨾𧩆𧨩" ++
   "𧨴𧨿𧩄𧨵",
   "𧩚𧨪𧨳𧨷𧩃𧨹𧨰𧩝𧨲𧨧𧮽𧮺𧮼𧯱𧯰𧱡𧱜𧱘𧱝𧳚𧳙𧳝𧳜𧳞䝽𧶠𧶢𧼏𧼓𧼒𧼑𧼔𧼙𧼎𧼗𧼡𧼠𧼖𨁸踷𨂇𨁹𨂀𨁷𨂁𨁆𨁺𨂜𨂃𨂄𨂭𨂝𨂞𨉕𨌶𨌫𨌧𨍆𨌬𨍅𨌳𨌭𨌴𨌢䡤𨐟𨖳𨖌𨖏𨖯𨖭𨖎𨖬𨖰𨖱𨖮𨖙𨛫𨝴𨝵𨞎𨝭𨝰𨞌𨡏𨡑𨡘𨡌𨡎𨤕" ++
   "𨦾𨧛𨦳𨦮",
   "𨲇𨲊𨲈𨲋𨲌𨵄𨴭𨴪𨴱𨴬𨵅𨴰𨴩𨵆𨻴𨼔𨼐𨼏𨼒𨼋𨼌𨼊𨼓𨼎𨿙𨿐霃𩃁𩂿𩂽𩂼𩂺𩂻𩃑𩂾𩃐𩂹𩈚𩈜𩈛𩊑𩊖𩊟𩊜𩊚𩊝𩎭𩎥𩎮𩐃𩐦𩐠𩐣𩐤𩐡𩐨𩐥𩐞𩒔𩒓𩒏𩒚𩒭䫂𩗊𩗅𩚻𩛡𩛪𩛤𩛭𩛦𩛠𩛨𩛥𩠚𩢔𩢖𩢞𩢕𩢡𩢎𩢛𩢒𩢗𩢙𩢓𩨲𩨯𩨮" ++
   "𩨳𩬜𩬞𩬑",
   "𩬠𩬟𩬙𩬖𩲬𩲹𩲳𩲦𩲢𩲩𩲧𩵬𩵭𩵩𩶀𩵦𩵥𩵱𩵫𩾽𩿁𩿓𩾶䲬𩾹𩿔𩾷𩿛𩾸𩿀𩾼𩿕𩾿𩿃𩿉𪉘𪊐𪊕𪊗𪌉𪌈𪌆𪌅𪌐𪎗𪎕𪏮𪐟鼏𡭋𠆎𠏨𠏰𠏴𠐆𠏭㒛𠏩𠐀𠒸𠕭𠠄𠠁𠠃𠠂勶㔦𠥢𠪺𠬓𠿞𠿗𠿤𠿎𠿣𠿝𡀺𠿛𠿖𠿠𠿔𠿋𠿡𠿉𠿟𡀼𠿼𠿏𡑹𡑶" ++
   "𡑸𡚇𡢜𡢱",
   "𡣁𡢚𡢒䆯𡣂𡢖𡣀𡢑𡢕𡦢𡫃𡫀𡫂𠮊𡮰𡰖𡽆𡽊𡼾𡽅𡽂㠕𡽛𡽄𢀄𤀢𢅕𢅗𢅑𢅎𢅚𢋆𢋃㢜𢋅𢋌𢍱𢐦𢒲𢕺𢖄𢕻𢡴𢢌𢡑𢡈𢢍𢢒𢢘𢢓𢢰𢡎𢢖𢢗𢢜𢣊𢴳𢶃𢶄𢶚𢶌擌𢶙𢻠𢿤𢿸𢿭𢿳𢿴𢿵𢿽𣄙𣊞𣋄𣊟𣎛𣎟𣎚𣚪𣚝𣚒𣚢𣚯𣛫𣚠𣚡𣚔𣚘𣚏𣚇" ++
   "𣚄𣚩𣙼𣤘",
   "𣩟𣩢𣩡𣫀𣬕𣯼𣯹𣿈𣿉𣿞𣿊𣿢㵤㵮𤀄𣿌𣿝𣿤𣿓𣿇𣿆㵟𤀷𤏘𤏮𤎲𤎣𤎳𤏭𤏸𤔱𤕛𤕦𤕩𤖖𤖛𤗷𤗳𤗴𤗵𤛢𤛧𤛥𤛩𤛦𤛣𤡴𤡿𤢏𤢐𤢗𤢣𤢎𤢘𤢌𤩂𤩄𤩩𤩃𤩨㻶𤮍𤮈𤮋𤮉𤳌𤴟𤺀𤹞𤹧𤹨𤹥癊𤹴𤹩𤹡𤹢𤹬𤺓𤺆𤾝𤾛𥀛𥀖𥀙𥀔𥀘𥀕𥂙𥂘" ++
   "𥉝𥊉𥉺𥉽",
   "𥉋䁳𥉸𥉿𥉷𥉾𥉹𥊫𥉼𥉴𥉵𥊧𥎍𥕎𥕦𥕡𥕍𥕏䃝𥕔𥕼𥛚𥛞𥛘𥛝𥛟𥡦𥡢𥡟𥡤𥡣𥡠𥢈𥡪𥡧𥢇𥠿𥡬𥡮𥢭𥧱𥧴𥧶𥧵𥧸𥧻𥧬𥧯𥧭窹𥧷𥧹𥧽𥪱𥰶𥰛𥰲𥱂𥱍𥰟𥰡𥰜𥰱𥰮𥱇𥰻𥱁𥰘𥰹𥰝𥰧𥰣篗𥻮𥻨𥻥𥻯𥻤𥻬𥻰𦃗𦃘𦃔𦃊𦃒𦃋𦃓𦃦𦃢𦉉" ++
   "𦉈𦋿𦌉𦎰",
   "𦎯𦑼𦑸𦑺𦑲𦑹𦑾𦔌𦔋𦗍𦖾𦖼𦖿𦗀𦖽𦠸𦠈𦠅𦠻𦠐𦠌𦠍𦠄𦠺𦠓𦠷𦠹𦤟𦥋𦧮𦩵𦩸𦩼𦩴𦩶𦫪𦫫𦷻𦸙𦺧𦺌𦻜𦺘𦺾𦺞𦼏𦺟𦻝𦺓𦺻𦺶𦺐𦺡𦺽𦻞𦸺𦼢𦺗𦺔𦻃𦺎𦺨𦺙𦺭𦺛𦺢𦼡𦺬𦼎𦼱𧇡𧇞𧇟𧇜𧇝𧇬𧇧𧍩𧎸𧎡𧎨𧎺𧏂𧎦𧎤𧎣𧎫𧎼𧎷𧎿" ++
   "𧎭𧎱𧏊𧏄",
   "𧎹𧗈𧗆𧗇𧜊𧜍𧛻𧜃𧜂𧛼𧛹𧛸𧡮𧡣𧡢𧡡𧡫䚈𧡯𧡦𧡬𧤎𧤕𧤖𧤐𧤗𧤑𧩮𧩬𧪇𧪃𧩣𧫜𧯀𧯷𧯺𧱰𧱪𧱨𧱩𧲄𧳬𧳧𧳮𧶺𧶲𧶵𧷋𠠋𧷐𧹭𧹬䞻𧽅𧽆𧼴𧼬𧼵𧽄䞺𧽶𨂱𨂪𨂡𨂲䠒𨂦𨂵𨂴𨂸𨂯𨂰𨂣𨉢𨉤𨍖𨍑𨍏𨍨𨍌𨍐䡡𨍈𨍊𨐡𨗣𨖹𨗞𨖷𨗡" ++
   "𨖶𨖵𨗟䣡",
   "𨞗𨞚𨞛𨞘𨞒𨞓𨟗𨝳𨡫𨡴𨡸𨡭𨤘𨧩𨧵𨧪𨨮𨧧𨧾𨧥𨨶𨧰𨧦𨨬𨲉𨲕𨲓𨵍𨵊𨵏𨵐𨵋𨼪𨼫𨼯𨼮𨽼𨿭𨿢𩃠𩃜𩃚𩃖𩃴𩃙𩃕𩈢𩈡𩈤𩈥𩈦𩈣𩊪𩊯𩊰𩊫𩎯𩎷𩎵𩎲𩎳𩐫𩓘𩓂𩒯𩒼𩒸𩒾𩒷𩒴𩒿𩒳𩒱𩒻𩒽𩓖𩓝𩗘𩗓𩗕𩗣𩗢𩗙𩗞𩗟𩗚𩗔𩛳𩛢𩜍" ++
   "𩜁𩜅𩜚𩜃",
   "𩜟𩜖𩛺𩛼𩜊馟𩢼𩣊𩢶𩣇𩢿䮉𩢹䮌𩢰𩢸𩢽𩢑𩢻𩢾𩨾𩨽𩬸𩬽𩬹𩬳𩰳𩲻𩳆𩳅𩳇𩳋𩲨𩳈𩲾𩳁𩲽𩶂𩶞𩶁𩶄鮍𩶖𩶎𩶈𩶇𩿠𪀍𩿟𩿤𩿢𩿝𩿬𩿞𩿧𩿪𩿣𪉜鹷𪉝𪊜𪌝𪎝𪎞𪎛𪎵𪎹𪎶𪏳𪏲𪏴𪐦𪐧𪐥𪔆𪔋𪔺𪔼𠐊𠐋𠒿𠓽𠘘𩇟𥎐𠚞𠟼𠠐𠠏𠠍" ++
   "𠢹𠢷𠢺𠤊",
   "𡁁𡂋𡁆𡁓𡃢𡀿𠽼𡁋𡁎𡂊𡁇𡒓𧷎𡒌𡒯𡓉𡗆𡗈𡚑𡣏𡣔𡣎𡫝𡫔𡽉𡽣𡽝㠚𡽧𡾻𡽠𡾀𢅟𢅠𢋚𢋒𢋝𢖎𢖈𢕬𢢞𢣉𢢤㦘𢣙𢣒𢣚𢣝𢣎𢣼𢨔𢩠𢷗𢷋𢷍𢷕𢻧𣀀𣀊𣀏𣀂𣀁𣄝𣋊𣋋𣋍𣍏𣎜𣚀𣜍𣜂㯱𣜇𣛷𣛸𣛽𣜤𣛻𣜹𣜺𣤢殩𣩪𣩭𣩴𣰎𣿟𤀫𣿣𤀦" ++
   "𤀪𤀣𤀵𤁊",
   "𤏽𤐀𤐞𤏿𤖞𤗺𤛱𤢕𤢨𤢦𤩮𤪃𤩭𤮏㽪𤳟𤳕𤳠𤳓𤳘𤺌癋𤺔𤺖𤺅𤺏𤺩𤺎𤺐𤺸𤻃𤺻𤾥𤾢皢𤾣𥂵𥂬𥂨𥊭𥊸𥊴𥊮𥊶䒅𥋁𥊿𥎒𥐀𥐁𥕵𥕲𥕸𥕰𥕾𥕽𥕿𥛯𥡭𥢎𥢏𥢊𥢍𥢕𥢋𥢌𥢰𥢓𥧼𥨕𥨎𥨘𥨑𥨍𥪻𥪳䈹𥲡𥲚𥲄𥲠𥲆𥲝𥲪𥱸𥲍𥲊𥲦𥱺𥲗" ++
   "𥲈𥲎䈽䉄",
   "𥱶𥲁𥲅𥱵𥲨𥲏𥲑𥲢𥲜𥲉𥱿𥲖𥱹𥲟𥲧䉆𥲇𥲛𥲥𥲋𥳉𥻿𥼃𥼀𥼂𥼄𥼅𥻦𥼟𦄔䌎𦄌𦄏𦄙𦄋𦄓𦃕䌐𦄜𦉐𦉎𦌒𦎹𦒅𦒈𦒐𦔓𦗐𦗑𦗒𦗗𦗖𦗥𦡆𦡫𦡅𦠿𦠾䐾𦡪𦡨𦡌𦤣𦤢𦦗𦦑𥪵𦦘𦦜𦪉䒄𦪋𦪊𦪍𦪎𦪈𦽎𦽄𦼷𦽵𦽔𦽶𦼴𦽫𦼲𦽗𦽒𦽅䕉𦺱" ++
   "𦽋𦽇𦼳𦽀",
   "𦼼𦽃𦽏𦽕𦽁𦾲𦿀𧐴𧏹𧐙𧐍𧏺𧐞𧐟𧐎𧑀𧐈䗟𧐓𧑌䗰𧗌𧗋𧜤𧜥𧜽𧜠𧜧𧜦𧜝𧜞𧜲𧝬𧝙䚊𧡺𧡹𧤛𧤮𧤣𧤠𧤟𧪶𧪹𧪡𧪣𧪨𧪯𧪚𧪙𧪢𧪝䜂𧪫𧯉𧯾𧰀𧯼𧰇𧱵𧱲𧱳𧱴𧳺𧳼𧳸𧳶𧳻𧷍𧷑𧷏𧹴𧹲𧹳𧽔𧽑䟀𧽓𧽉𧽌𧽊𧽏𧽖𨄀𨃕𨃗𨃿𨃙𨃣𨃓" ++
   "䠕𨃘𨃔𨃞",
   "𨉱𨍴𨎈𨍿𨍫𨎇𨍹𨍸𨎉𨎀𨍶𨐩𨐨𨐯𨗥𨘄𨘃𨗰𨗨𨗪𨗱𨘁𨘂𨞩𨞫𨞷𨞶䣢𨢠𨢎𨢆𨢇𨢅𨢋𨢈𨢐𨤚𨤴𨨷𨨯𨨰𨨹𨨴𨨳𨪅𨪄𨨺𨲟𨵩𨵬𨵪𨵧𨵫𨼿𨽀𩀋𩃒𩃸𩄁𩃺𩄖𩅅𩈬𩈭𩈯𩈮𩋁𩋵𩋄𩋞𩋌𩋒𩋂𩋍𩋏𩋝𩋈𩎺𩎾𩎿𩐮𩐰𩓧𩓮𩓨𩓦𩓢𩓤𩓻𩓼" ++
   "𩓪𩗭𩗶𩗳",
   "𩗴𩗱𩗷𩗵𩗪𩗫𩜀𩜬𩜒𩜽𩜳䭍𩜰𩝀𩜱𩝗䭊𩜵𩜲𩜭𩜶𩜸𩝢𩝟𩞊𩣖𩣘𩣝𩣤𩣣𩩍𩫗𩭊𩭌𩭐𩭋𩭎𩭏𩰹𩳒𩳍𩳓𩳡𩳎𩳕𩳝𩳔𩳏𩷋𩶦𩷂𩶥𩶩𩶢𩶤𩶰𩷌𩶯𩶿𪀤𪀚𪀔𪀺𪀠𪀛𪀡𪀥𪀞𪀿𪁀𪀘𪀬𪀕𪀭𪀟𪀩𪁋𪊳𪊥𪊧𪊫𪊦𪊪𪌢𪌣𪎡𪎣𪎠𪎽𪎺" ++
   "𪏺𪏸𪏼𪏶",
   "𪐴𪑃䵣𪓔𪔍𪕃𪕁𪔽𪕀𪔾𪔿𪕆䶓𪗔𠐵𠐶𠐲𠐺𠓈𠔶𠘞𠘝𠘟𠠜𠠝𠠠㔎𠣀𡂚𡂓𡃝㘊𡂣𡂩𡂜𡂛㘍𡂗𡒱𡓊𡒳𡓍𡣪𡣮𡣯𡫟𡭐𡮻𡾈𡾉𡾌𡾅𡽞𡾔𡾕𢅫𢅪𢅩𢋣𢋱𢐷𢐳𢖑𢖏𢖗𢣔𢣞𢣓𢣠𢥃𢤋𢣿𢤄𢤇𢷹𢷺𢷻𢷸𣀒𣀐𣄟𣋟𣋣𣍒𣎩𣝥𣞇𣝂𣝒𣝌" ++
   "𣚟𣜁𣝈𣝏",
   "𣝾𣝍𣝘𣝇𣝞𣝉𣝎𣝝𣝚𣞆𣝑𣤩𣦦𣦧𣩰𣩯𣫓𣫒𣰨𣰛𣰚𣰜𣰡𤀲𤁦𤁽𤁳𤁿𤁥𤂀𤁡𤁵𤁮𤁧𤁱𤁬𤁣𤁢𤂃𤂲𤂁𤁯𤁫𤂂𤂊𤐩𤐰𤐱𤖗𤘀𤗿𤢶𤢵𤣃𤪍𤬘𤮜𤮚𤮙𤺷𤻄𤻆𤻇𤺼𤻀𤻅𤻍𤻁𤺾𤾧𤾸𥀣䁴𥋨𥋞𥋣𥋯𥋜𥋤𥋡𥋥𥎕𥎔𥎓𥎎𥖘𥖜𥖙𥖠𥖞" ++
   "𥜄𥣓𥢴𥢻",
   "𥢷𥢸𥢽𥢶𥢹𥢵𥨢𥨡𥫃𥪼𥳿𥳥𥳷𥳒𥴀𥳛𥳰𥳢𥳍䉖𥳡𥳲𥳜𥳌𥳖𥳳𥳺𥳶𥳬𥳪𥳣𥳐䉚𥲕𥳕𥳴𥳋𥳚𥳈𥳟𥳵𥳏𥳇𥳗𥼤䊣𥼜𥼡𥼞𥼘𥼛䊨𦅆𦅋𦅈𦅇𦅧𦅔𦌕𦌢𦏅𦌩𦏇𦒍𦔛𦔠𦗢𦗧𦗨𦗡𦡲𦡻𦡴𦡱𦡹𦡵𦢐𦡷𦡽𦥏𦥐𦦣𦦢𦧴𦪔𦪚𦪛𦪧𦪗𦪕" ++
   "𦪒𦪜𦪖𦾶",
   "𦾸𦾰𧀘𦿅𦾵𦿂𧀆𧀙𦾹𧀕𦿖𦾬䔼𦿆𦾳𦿃𦿊𦿏𦾽𦿎𧀔𦾺𧀚𦿁𦾻䖛䖚𧈁𧇼𧑚𧑔𧑡𧑜𧑕𧑊𧑋𧑑𧑩𧑫蟱𧑦𧑘𧑝𧑧𧑖𧒈𧑤𧑎𧝗𧝚𧝑𧝊𧝋䙞𧝇𧝯𧝪𧝫𧝆𧝭𧝔𧝮𧝌𧡸𧢆𧢂䚧𧫡𧫥𧫛𧫞𧫗𧰃𧱼𧱾𧴅𧴇𧷦𧷡𧷻𧷥𧷧𧷟𧷿𧹶𧽣𧽦𧽥𧽞𧽤" ++
   "𧽫𧽟𧽧𧽨",
   "𨄈𨄉𨄗𨄕𨄛𨄋𨄨𨄎𨄘𨅓𨅅𨄍𨄊𨄓𨅊𨉹𨎡𨎍𨎢𨎐䡮𨐱𨐰𨘟𨘙𨘌𨘞𨘝𨘇𨝦𨟅𨞺𨞽𨟂𨟃𨞿䤍𨢡𨢢𨢨𨢣𨢪𨢯𨢹𨤷𨪏䥃𨪎𨪇𨪊𨪒𨪗𨪟𨬅𨲩𨲧𨶊𨶂𨶅𨶋𨶉𨶁𨶀𨶇𨶆𨽍𩀜𩀟𩄡𩄝𩄢𩃾𩄛𩄺𩄷𩄗𩄸𩄦𩄘𩈴𩈵𩈲䩳𩋡𩋽𩋣𩋨𩋹𩋿𩋾" ++
   "䩴𩋠𩌀䩰",
   "𩋬𩋤𩋯𩋺𩏊𩐱𩐲𩐴𩑁𩔀𩔆𩔈𩔅𩔃𩔋𩔂𩔊𩗰𩘓𩘊𩘏𩘑𩘈𩘋𩘒𩘍𩝛𩝣𩝡𩝨𩝚𩡎𩡍𩡐𩣼𩤒𩣵𩤞𩣰𩣳𩣲𩤁𩣯𩣮𩤖𩣶𩣻𩤜䯛𩩝𩩠𩩦𩩟𩩡𩩛𩩢𩩗𩭩𩭫𩭡𩭷𩭟𩭣𩭢𩭥𩳯𩳢𩴀𩳨𩳲𩳧䰩𩳥𩷕𩷐𩷚𩷓䱑𩷙𩷏𩷖𩷘𩷵𩷎𩷗𩷴𩷍𩸁鮺𪁒" ++
   "𪁕𪁚𪁍𪁔",
   "𪁓𪁞𪁧𪁥𪁎䳛𪁏𪁡𪁮𪁑𪁛𪉣𪊷𪊶𪋃𪊻𪊵𪌮𪌰𪌳𪌱𪎤𪏁𪎻𪎾𪐀𪏿𪑀䵥𪐿𪑄䵤䵧𪓛𪔏𪔑𪕎𪕍𪕋𪕌𪖕𠐻𠑅𠑄𠐾𠐼𠐿𠓌𠓎𠘢𠘣𠚟𠣅𠣄𡃩𡂙㘑𡃦𡃧𡃷𡓒㜳𡣽𡤌𡤋𡳭㠡㠢𡾛𢀊𢅯𢅵𢋲𢋸𢐾𢤤𢤎𢤖𢤘𢤐𢤱𢥄㦦𢤩𢤯𢥋𢤶㦣𢸴𢸀" ++
   "𢸫𣀠𣀡𣀞",
   "𣀝𣋵𣋲𣋶𣞐𣞝𣞜𣞒𣞔𣟑𣞓𣞷𣞗𣞰𣞟𣟉𣤭𣤬𣩷𣰬𤃀𤂹𤑓𤕀𤜂𤛻㺡𤪋𤪮𤪫𤮡𪋍𤳪𤻝𤻜𤻙𤾫𤾬𤾭𤾲𥀬𥀫𥃂𥌀𥌍𥌆𥋿𥌃𥌁𥌐𥌏𥌅𥎘𥎗𥎖𥎙𥖬𥖫𥜒𥣘𥣟𥣖𥨭𥨲𥴿𥴯𥴦𥴺𥴹䉟𥴻𥴵𥴪𥴡𥴸𥴷𥴴䉜𥴢𥴶𥵄𥽅𥼻𥼶𥽂𦅺𦆆𦆋𦅿𦆁" ++
   "𦌪𦏕𦒟𦒝",
   "𦔦𦗴𦗵𦠕𦢎𦢏𦤦𦦧𦦯𦪭𦪬𦪫𦪪𧀯𧀡𧀣𧂣𧁉𧀺𧁈𧀭𧀥𧀩𧀲𧀴𧀤𧀬𧁋𧀻𧀠𧀨𧒘䗵𧒗蠄𧒝𧒨𧗕𧝷𧝸𧝲𧝳𧠂𧤻𧫾𧬋𧫿𧬇䜑䜌𧬰𧯍𧯏𧰐𧰊𧲃𧴕𧴎𧴌𧸂𧷾𧸅𧸕𧸈𧽿𧽷𧽼𧾂𧽾𧽸𧽽𧽹𧾁𨅋𨅣𨅤𨅖𨅔𨅎𨄐𨅏𨅗𨅞𨅑𨅪𨅩𨎭𨎤𨎬𨎩" ++
   "𨎮𠑌𨙐𨘵",
   "𨘲𨟘𨟑𨟏𨞾𨣕𨣁𨣆𨣃𨣂𨣀𨣅𨣇𨢿𨣄𨣔𨪐𨫒䥎𨫔𨲯𨲮𨲲𨲭𨶜𨶠𨶶𨼽𨽖𨾂𩀨𩀫𩄼𩄾𩄿𩅂𩄽𩅁𩄻𩅉𩅃𩈹𩈸𩌢𩌈𩌌𩌆𩌓𩌄𩌠𩌝𩌅𩌊𩏖𩏗𩐶𩐷𩔣𩔢𩔠𩔚𩔝𩘜𩘠𩙷𩝿𩞋𩝽𩞙𩞄𩞉𩞅𩞃𩞆𩞞𩡓𩤗䮔𩤙𩤠𩤟𩤣𩤘𩤡𩤩𩤤𩤦𩩞𩩯𩩮" ++
   "𩩴𩩲𩩳𩭽",
   "𩭾𩮅𩭿𩮄𩱄𩳵𩳸𩴃𩳶𩸨䱣𩸹𩷻𩸎𩷽𩸟䱡𩸃鯘𩸐䱚𩸍𩸧𩹁𪁲𪁸𪂀䳣𪂅𪁻鵼𪁽𪂑𪂈𪂪𪂍𪂉𪂕𪂛𪂌𪂞𪁼𪂆𪂄𪉨𪋅𪋄𪋉𪋆𪍂𪍅𪍁𪍄𪎦𪏂𪑂𪑉𪑈𪑊𪑌𪑋𪔗𪔘𪔕𪕒𪕔𪕓𪖚𪖛𪗜𪗤𪚑䶯𪚺𠑑𠑛𠓏𣌅𡄓𡄕𡄔𡄣㘓𡄑𡄒㚀𡓰𡚛𡤒𡤖" ++
   "𡤗𡦵𡳴𡾱",
   "𢅹𢋿𢋼𢋻𢐿𢑄𢖝𢤲𢥌𢤫𢥚𢨟𢸁𢸭𢸧𢹙𢹚𢹍𢹘𣀣𣀥𣀫𣋿𣎮𣟋𣟊𣟐𣟎𣟌𣟘𣟆𣟒𣟏𣟈𣬗䶰𤃄𩉀𤃩𤃲𤃼𤃪𤃫𤃽𤑸𤑷𤑳𤒞𤑹𤖢𤘃𤜄𤜅𤣎𤪿𤻶𤻷𥀱𥀰𥃉𥃇𥌜𥌨𥌚𥌞𥌛𥌟𥖿𥖻𥖼𥗀𥜚𥣯𥣬𥣩𥣰𥣾𥨴𥵪𥶕𥵬𥵲𥵧𥵠𥵫𥵞𥵯𥵦籆𥵢" ++
   "𥵝𥵜𥲀𥽐",
   "𦆟䌣𦆞𦆦𦌵𦌸𦌶𦌺𦏜𦡼𦢫䑉𦢨𦢧𦤫𦤬𦤨𠤫𦦩𦦪𦦫𦧸𦪱𦫰𦫯𧂨𧂋𧂔𧂞𧂏𧂈𧁾𧂁𧀰𧂛𧂂𧂐𧂅𧁿𧂩𧃞𧈍䗺𧓏𧓋𧓘𧓝𧓓𧓐𧓕𧓖𧗖𧞒𧞕𪗋𧞍𧞛𧞝𧞏𧞞𧞦𧢖𧢒𧬖𧬪𧬩𧬬𧰕𧰒𧰑𧰓𧲈𧲋𧲊𧲇𧴗𧴖𧴚𧸙𧸗𧾑𧾔𨆋𨆐𨆏𨆆𨆃𨆎𨆇𨆨" ++
   "𨆅𨆦𨆂𨆧",
   "𨎹𨎷𨎴𨎶𨎳𨏆𨘼𨙀𨘸𨞑𨞦𨟚𨣚𨣘𨣙𨣛𨣗𨬖𨬒𨬟䥙𨬔𨬚𨬐𨲳𨶮𨷁𨶰𨶯𨶱𨶭𨶲𨷄𩀼𩀿𩅡𩅦𩈼𩈻𩌬䩾𩌪𩌾𩌯𩌲𩌧𩌩𩍀𩏟𩏞𩐼𩐻𩐾𩔡𩕆𩔼𩔶𩔸𩔵𩘱𩘶𩘭𩘳𩘯𩘮𩘵𩞬𩞩𩞦䮨𩥌𩥃𩥁𩥏𩥂𩥑䮩𩥀𩥐𩥅𩥊𩥋𩪃𩪂𩪁𩫠𩮘𩮟𩮛𩮚" ++
   "𩮙𩮖𩮮𩮞",
   "𩴉𩴍𩹎𩹊𩹍𩹀𩸾𩹈𩹂𩹢𩹅𩹑𪃆𪃐𪃀𪂷𪃂𪂼𪃅𪃜𪃛𪃒𪃇𪂶𪃉𪃌𪃑𪃍𪃚𪂺𪃓𪃎𪃶𪂽𪃝𪃈𪄍𪄵𪉱𪉮𪉯𪋖𪍌𪍏𪍔𪍓𪏉𪏈𪐃䵔𪐄䵖𪑗𪑒𪑓䵭𪑖𪑜𪑕𪕤𪕝𪕞𪖢𪖣䶎𪗧𪗦𪚘𪚬𪚯𪚮𠑙𠖩𠠪𠣇𡅁𡄷𡄵𡄳𡄹𡄲𡓿𡔁𡓸𡤛𡤙𡮿𡾼𡾾𡾽" ++
   "𢅽𢑆𢑇𢖤",
   "𢨡𢩢𢺆㩲𣀯𣀱㰔𣟸𣟵𣟹𣟲𣟺𣟳𣠔𣟽𣠏𣠎𣠁𣤷𣤵𣤴𣤱𣩺𣩻𣰷𤄫𤃻𤄖𤄓㶓𤄑𤄏𤄛𤄸𤒤𤜉𤜇𤜋𤣓𤣑𤣘𤬝𤮩𤯐𧈕𤼂𤼅𤼁𤼀𥌮𥌰𥌯𥌱𥗒𥗓𥤂𥩀𥩂𥨻𥫎𥶘𥶏𥶔𥶑䉯𥶺𥶐𥶆𥶚𥶌𥶓𥶇𥶈𥶗𥶍𥶜𥶽𥼼𥽙䊰𦇑𦆻𦆾𦉝𦏢𦘅𦢺㔮𦣴𦦲" ++
   "𦧹𦪷𦪶𧂉",
   "𧃹𧃙𧃨𧃔𧃛𧃢𧃟𧃑𧃩𧃪𧈓𧈑𧓺𧓸𧓴𧓻𧔎𧔂𧔏𧞐𧞭𧞩𧥈𧭚𧭏𧭎𧭕𧭔𧭊𧯕𧰘𧲍𧴝𧴙𧸦𧸨𧸫𧹽𧾠𧾚𧾛𨆵𨆭𨆲𨊔𨏉𨙎𨙏𨙄𨙒𨣩𨤹䥩镾𨷇𨷓𨷆𨷃䦴𨷒𨽦𩅿𩆀𩆄𩆅𩇣䩍𩉁𩉄𩉃𩍎𩍏䪃𩍉𩍊𩍋𩍃𩏠𩏥𩏡𩏦𩏢𩐌𩑀𩕉𩕊𩕔𩕌𩕕𩕖" ++
   "𩘻𩘽𩞤𩞨",
   "𩟃𩞿𩟈𩟂𩟊𩟌𩟉𩞾𩟍𩟇𩟅𩡝䮰𩥬𩥫𩥰𩥭𩥯𩦉𩦄𩪍𩪊𩪎𩪑𩮵𩮱𩮯𩮹𩮷𩮰䰌𩰗䰘𩱏𩴙𩴐𩴘𩴑𩴜𩴒𩹶𩹱鰠𩹺𩹿鰢𩹳𩺫鰞𩹷𩹴𩹾𩺛𩺄𩹼𪄩𪄫𪄎𪄀𪄋𪃾𪃺𪄗𪃿𪄌𪄏䳵𪄂𪄁𪃼𪅉𪄆𪄒𪄓𪉸𪍛𪍢𪍟𪍝𪎫𪏕𪏔𪏓𪐇𪑬𪑰𪑮𪑨𪑭𪑷" ++
   "𪑪𪓎𪓬𪕩",
   "𪕨𪖦𪖩𪖪𪘀𪘍𪗸𪗼𪘊𪗷𪘁𪚶𪚻𪚷𪚹𪛊𠑩𠘥𡅙𡔇𡔉𡤢𡬇𡬄𣌏𡳸𡿇𡿑𢅾𢌈𢑊𦇚𢒹𢺈𢺑𢺄𢹳𢺉𢺅𣀳𣌓𣠝𣠟𣠜𣠠𣠚𣠛𣤹𣦯𣫥𣰼𤄷𤄺𤒻㸎𤜐𤜍𤮯𤰑㿘𤼍𤼌𤼋𥃔𥌽𥌾𥌻𥍃𥍀𥍆𥐑𥗝𥗟𥗪𥝊𥤆𥷁𥶹𥷆𥶸𥶻𥷈𥷅𥶿𥷇𥷄𥽥𥽧𦇗𦇛" ++
   "𦇔𦇖𦏨𦘊",
   "𦪽𦪾𧄚𧄍𧄏𧄛𧄐𧄑𧄓𧈘𧔠𧔟𧔣𧔝𧔷𧔥𧔤𧔪𧔧𧔳𧔨𧔴𧞺襰𧢝𧥌𧭜𧭪𧭝𧭥𧭣𧭞𧰙𧲗𧸿𧸳𧸲𧾡𧾥𧾤𧾢𨇁䠬𨇇𨇄𨇆𨇅𨇔𨇊𨙓𨣱𨤡䥮𨮷𨮒𨷔𨽄𩆘𩆛𩆑𩆕𩆚𩆒𩍓𩍗䪆𩍜𩍝𩍤𩏪𩏭𩑂𩑃𩕤𩕡𩕠𩙽𩟔𩟕𩟙𩦇𩦙𩦌𩦊𩦏䮳𩦋𩦂𩦛䯫" ++
   "𩯈𩯄𩯌𩯇",
   "𩯃𩯆𩯋𩯊𩯉𩯍𩱓𩴡𩴩𩴝𩴤𩴨鱃𩺱𩺲𩺵𩻖𩺯𩻊𩺸𪄅䳸𪅅𪅇𪄴𪅮𪅂𪄱𪄮𪅖𪄸𪄷𪅋𪄭𪄳𪄶鷠𪅈𪋜䵂𪍦𪍭𪍣𪍤䵁𪍧𪏙𪐋𪑾𪒋𪔦𪔬𪔩𪕯𪕫𪕭𪕮𪘜𪘑𪘐𪘤𪘒𪘕𪘗䶬𠑯𠖫𠠮𠣉𠮖𡆅𡚠𡤫𢌍𣀶 㬯㬮𣎱𣡊𣠷𣠼𣠸𣠺𣠾𣡉㱍㱻𣪀𣩿" ++
   "𣫣𣰿𤅒𤅎",
   "𤅊𤅋𤓕𤫘𤬠𤮳𤮱𤮰𤼗𥃙𥍉𥐓𥗭𥗫𥗮𥤊𥤋𥩊𥷕𥷗𥷞𥷜𥷮𥽰䊲𦇙𦏗𦣋𦣇𦧼𧄻𧄹𧅋𧅃𧅀𧅆𧕍𧕃𧕇𧕋𧕕𧕒𧭟䜢𧭼𧭻𧾨𧾩𨇞𨇗𨇝𨇖𨇘𨊛𨏠𨏨𨏦𨣸𨣻𨮻鑙𨮸䥰𨳁𨳀𩆤𩆫𩉍𩍥𩍧𩍪𩍦𩍩𩕳𩖀𩕯𩕱𩟤𩟦𩟧𩦠𩦤𩪢𩪧𩪤𩯞𩯛𩱘𩱜𩴯" ++
   "𩴮𩻝𩻤𩻘",
   "𩻧𩻚𩹵䲕𪅹𪆀𪅿𪅼𪅵𪅻𪆂䴀𪆉𪅴𪅽𪅺𪆆𪆨𪅲䴂𪆋𪆑𪆳𪆁𪊂𪋡𪋣𪋢𪍶𪍴𪍲𪍵𪐎𪐍𪒔𪒒𪒓𪒑𪒏𪒕𪓐𪓷𪕶𪖯䶟𪘦𪘥𪘭𪚠𪛃𠓗𠫌𡅹𡅺𡔕𡿛𢆅𢥰𢥻𢺥𢺟𣌗𣎲𣠹𣡀𣡎𣤾𣫨𣫧𤅦𤅡𤓚𤜔𤣟𤼘𥀹𥀺𥜰𥜲𥤎𥩌𥷨𥷱𥷫𥷬𥽴𥽳𦇱𦍂𦌾" ++
   "𦍁𦔬𦣒𦦻",
   "𧅘𧅗𧅖𧅚䕽𧕡𧕨𧕥𧕟𧕤𧕞𧕛𧕧𧟃𧢢𧥓𧭽𧰠𧾮𧾯𧾰𨇧𨇦𨇩𨏱𨏫𨏪𨏩𨙣𨤂𨣾𨯞𨳂𨷦𨽝𩆭𩍵𩍲𩍷䫶𩙑𩟨𩟭𩟮𩦹𩦡𩦶𩪮𩯨䰒𩰞𩴱𩴲䲑𩼎𩼒𩼉𩼅䲐𩼃𩼟𩼍𩼌𩼄𩼊𪇂𪆿𪇉𪆲𪇁𪆯𪆴𪆰𪆶𪆷𪆻𪆱𪋰𪍸𪍺𪍹𪏤𪏦𪒟𪒝𪒘𪒙𪓹𪔰𪖂" ++
   "𪖁𪖳𪕿𪘺",
   "𪘾𪙈𡆆𡤶𡬓𡰢𡿝𢖧𢥽㩹𣌜𣡥𣡠𣡧㱎𣬚𤫣𥜴𥤘𥩒𥷼𥽹𥽸𥽶𦇺𦇸𦔭𦣖𦦽𦦿𦦾𧅄𧅰𧅢𧅮𧕮𧕼𧕴𧕸𧕰𧕹𧕱𧟌𧢧𧢦𧮓𧰡𧲜𨊝𨏴𨏳𨷰𩆸𩆶𩆽𩍳𩎂𩖇𩙖𩙙𩟶𩧉𩧅𩧇𩧊𩧂𩧄𩯲𩯰𩴻𩴺𩼦𩼨𩼴𩼭𪇗𪇒𪇖𪇜𪇓𪇑𪊆䴞𪋯𪋮𪏨𪒬𪒩𪒪𪒫" ++
   "𪓻𪔳𪖈𪖶",
   "𪖷𪗐𪗏𪙏𪙙𪙌𡬘𡿠𣡩𤅳𤅲𤫨𥗻𥤜𥸉𥸊𥸈𥽽𥽿𦉧𧅺𧅻𧟑𧢮𧮝𧲝𨇼𨇻𨇽𨏵𨏶𨰏𨰝𩇇𩇁𩆿𩉔𩍿𩏵𩖊𩖌𩙜𩡥𩧏𩧐𩪸𩯺𩱦𩽀𩽁鱲𪇷𪇳𪇯𪇴𪇭𪇲𪇱𪇹𪒴𪓼𪖼𪙞𪙛𪙟𪙝𪛏𪛎𡤺𡿡𢌕𢌔𤅸𤅹𤓦𤮸𤼢𥗾𦣛𦨆𦫈𧆉𧖆𧢭𧮙𧯘𧰣𧴣𧾵𨏹" ++
   "𨤇𨰞𨷻𨽲",
   "𨽳𩎇𩑉𩙝𩟸𩰃𩽎𩽍𩽐𩽕𪈉𪈇𪈌𪈃𪈆𪈋𪈊𪊉𪒻𪓿𪔶𪖋𪙦𪙩𪙧𪛂𪛒𡿢㠨𢦈𣍛𣡶𤅽𤖦𥍚𥸗𦣜𧆏𧖔𧖕𧾶𨈄𨟮𩎊𩏹𩰇𩰟𩰪𩵅𩽜𩽛𩽡𩽝𪈘𪈟𪎃𪐖𪐔𪒿𪓀𪙳𪛀𡔗𢦉𥤞𥤟𥩔𥸘𦈅𧆕𧖘𧖛𧥙𨈈𨐁𩇎𩏺𩪾𩵇𩽪𩽩𩽨𩽧𪈥𪈨𪓄𪔷𪖍𪖌䶑" ++
   "爨𥸢𥾂𧟙",
   "𨰸𩏻𩧡𩱲𩵈𩽬𩽰𪈱𪈰𪙹𥸣𦣸𩱴𩽳𪈴𪎇𪎲𪗂𪙽𡿥𩎌𩽷𩽵𪈸𪈺𪚃𪚁𤆀𧆙䖇𩑊𩵊𪈼𪛈𥘄𧢯𪚉𪋺𩙡𪈿𧆓𪓉𧟞𩎑𪚎𪚍𧆘𦧅𪚥"]

end Catalog.Charset
