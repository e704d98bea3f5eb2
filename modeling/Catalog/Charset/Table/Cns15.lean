/-!
This module contains the characters of plane 15 of CNS 11643 in their rows of 94.
-/

namespace Catalog.Charset

def cns15 : Array String :=
  #["𠀂𠂌𠃔𠆥𠂒𠂓𠃘𠃙𠆧𠘫𠘬𠘭𠘰𠘮𠚫匁𠤭𠥭𠨬𠨏 𠮝𡆢𡗔𡭖𡯃𢀔 𤜚𠀏𠀐𠂚𠂛 𠆬㐶𠂗𠕆䍏𠕶𠕷𠖮𠘺𠙽𡯅𠮨 叺𡉁𡉂𡗘𡗙𡚪𡚫𡥂𡥁龙𡯆 𡴵𡴶𡴷㠯𦍍 𢆵𢌗𢒂𣎶汉𣱲𤕜𤖨辷𡗣㐆 𠃦𠅄𠅅伩㐾𠇄𠇅𠇆𠇇𠇈𠇉𠇊𠇔" ++
   "𠕽𦉲𠖲𠖴",
   "𠚂𠛇𠛈 𠠼𠠽𠠾𠠿㔕𠣓𠅇华𠨽𠫢𠮸𠮹𠯂𠮺𠯆𠮻𡆭𡉌𡉍 𡚲𡚳𡚴𡚵𡧃𡧄𡧅𡧆𡧇 𡯎𡰰𡵇𡵈岁𢁜 𢁟𢌘𢌙𢍾弐𢖰𢩵扨𢩶𣁁𣅂 𣎽杂杀凪𣬞𣬟𣲇汢𣱸𤆈𤆉𤆊𤘗𤘕  玑𥃥𥘉𥜻𥝏 𦘮𦘯𦫿𦫽𦫾辻込 𠀣𠃪𠄪𠅉𠅊𠅋𠇟" ++
   "𠇠𠇡𠇢𠗁",
   "𠇣𠇤𠇥𠗀𠇦𠇷 𠇧𠇨𠇩𠇪𠇫𠔎𠖀𠖁𠖺𠖻𠖼𠖽𠘿𠙀𠚈㓟𠡆 𠡇𠡈𠤶𠥲𠦖𠩇𠫧𠬴𠬵𠬶𠬷𠯣𠯤𠯥𠯫㕵𠯦𠯧𠯨  𡆹囨𡆺坛𡉣𡉤 𡉥 𡉦𡉼𡉧売𡕙𡗩𡗪𡗫𡗬𡗭𡗮𡗯𡚿𡛋𡛃𡛕𡛄𡛅𡛓𡛆𡛇𡛈𡛉𡛊𡥊 𡧑𡭡𡰷 𡵤𡵦岙𡵧𡵨" ++
   "𡵩岗𡵳𡵪",
   "𡵫杢 𢁲㠼𢆹𢌜𢌶𢎼𢎾𢎿𢏀𢒇𢗜𢗝𢗵𢗞𢗟志𢗠𢗡𢗢𢨬𢨭护𢪩𢪜𢪝𢪞𢪟𢪠𢪡𢪢 𢪣𢪤𢪧𣁂𣂓𣅑 𣅒𣅄𣅓𣌢𣏆𣏇𣏉𣏃𣏊杦𣏈𣬤𣬥𣬦 𣬧𣬨 𣱘𣲼𣲧𣲈𣲉𣲥𣲨𣲩𣲪𣲫𣲬𣲭沣𣱹 𤆔𤆕𤆖㶥 𤆗灿𤆘𤕎𤕏𤘙 𤝁㺬𤣷𤰄" ++
   "𤰙𤰗𥁀𥃬",
   "𥐛𥐜矶𥘎𥝒𥫘𥸦𦉴 𦉵𦧆𦬋𦬌𦬍𦬎𦬏𦬐迈𨑙𨑚𨚃𨚄𨚅 闵𨸠𨸡𨸢𨸣𨸤𨸩𠃴 𡖏𠅑侫𠈗𠈘𠉛𠈙𠈚㑓𠈛𠈜𠈝𠈞𠈟𠈠𠈡𠒋𠒈尭𠖅𦊇𠗇𠙌𠙍𠛼𠛽𠛾𠛿  𠡖𠡗𠡘𠡙𠣜𠣝𠥳𠦝𠦡𠦞𠦟𠦠𠧦𠩑𠩒𠬽𠰢咜𠰣𠰤𠰥𠰦𠰧𠰨𠰩𠰪𠰫" ++
   " 𠱀𠰬𠰭",
   "𠰮𠰯𠰰𡇐𡊨𡊔𡊕𡊖𡊗𡊘𡊜𡊛 𡊡𡊠𡊙𡊚𡊧垈𡕤 𡘀𡘁  𡛥𡛩𡛻𡛼𡛪𡛫𡛬𡛭𡛮𡛯𡛺𡛰𡛱𡛲𡛳𡛴𡥒𡥓𡥔𡥕𡥘𡥖 𡧝𡧞𡧣𡧟𡧠𡬢𡬣𡭨𡯟㒬𡱄𡶔𡶕𡶖𡶗𡶘𡶙峀𡶚𡶛𡶝𡶞𡶟𡶠𡿳𡿲𢀟𢂈𢆏𢆐 𢇽𢇾𢇿𢈀𢈁𢘚 𢗣𢗤𢗥𢗦" ++
   "𢗧𢗫𢗨𢗩",
   "𢗪𢘝𢦤𢦣𢫔𢫆𢫇𢫈𢫉𢫊𢫋𢫌𢫍㧞𢫎拃𢺸𢺹𢺺𣁮𣃛𣃜𣅨𣅩𣅪𣅫𣅬𣅭𣅮昙𣌤𣌥 𣐀𣏥𣏹𣏧𣏨𣏩𣏾𣏪𣏫𣏬㭉𣏭枡𣏮枦𣏯 𣐗𣏰𣏱𣢔𣥛𣥜𣥝𣬯㲑𣬰𣬱𣬲𣬳𣳌𣳍𣳎𣲮𣲯𣲰㳓𣳏𣳐𣳑𣳒𣳓 𣳔㶩𤆦𤆧𤆨𤆰𤆩𤆪𤆫𤆬𤆭𤓻𤓼 " ++
   "𤘭𤘮𤙐𤘯",
   "𤘰𤝥𤣦𤤌𤤂𤤃𤤄𤤅𤤆 𤯀𤰤𤰥𤴖𤴲𥐠𥐡𥐢𥐣矾𥐥𥘙𥘤𥘚𥘛𥘜𥘝𥘦𥘞𥝚𥝛𥝜𥝝𥝞𥤱 𥸩 𥾈𥾉𦊉罗𦍖𦓑𦓦𦔲𦔳𦙒𦙓䏕𦙔𦙕  𦬩𦬪𦬫𦬬𦬭劳𦬮𦬯𦬰𦬱𦬲𦬳苅𦬴𧆛𧈣𧈤 𧈥𧈧𧘖𧲠𨑯迟𨑰𨑱远䢌𨑲𨑳𨑴𨚜𨚪𨚝𨚞䂙" ++
   "𨚫𨚟𨸵𨸸",
   "𪎍𠀵𠀶𥫮𠂴𪛉𠄲𠅕𠉄𠉅𠉆𠉇俤𠉈𠉉 𠉊𠉋𠉌𠉍𠉎𠉏𠉐𠉑𦊙𠗑 𠗒𠗓𠗔𠗕𠜡𠜢𠜣𠡨𠡩𠡪𠣢𠥅𠧬𠧭𠧮𠧯 𠩢𠩣𠫴𠁯𠭄𠭅𠱹唛𠱺𠱻𠱼𠱽𠱾𠱿𠲀㖈 𠲁𠲂𠲃𠲄𠲅𠲆𠲇𠲏𠲈𠲉𡋅𡋆垪𡋇𡋈𡋉𡋊𡋋𡋌垫𡋍𡋎𡋣𡋏𡋐𡋑𡋒𡋓𡋄" ++
   "𡋔𡋕𡋖𡔠",
   "𡔡𡘚𡘒𡘔𡘕𡘖𡘙𡘗𡘘㛉𡛪 𡜒𡜓𡜔𡜕𡜖𡜗𡜘𡜙𡥡𡥢𡥣𡧵宩𡧶𡧷𡧸𡬩㤗𡱝𡱗𡱘𡱙𡱚𡱛𡶻𡷑𡶼𡶽𦣟𡷐𡶾𡶿𡷀𡷁𡷂𡷃𡷄𦭬𢂡𢂢𢂣𢆓𢈍𢈏𢈎𢈐𢈑𢈒弢𢓥𢘯 𢙗𢘰𢙨𢘫𢘱𢙘㤜𢘲𢙙 𢙚𢘳𢙛𢙜𢙝𢘞𢦮𢦯𢨻𢨼𢨽𢬇𢬈𢬉𢬊𢬋" ++
   "𢬌𢬍𢬎𢬏",
   "𢬐𢬢𢬑𢬒𢬓𢬔𢬕𢬖𢬗𢬘𢬌 𣁆𣁇𣁈𣃡𣆁𣆃𠱵 𣆅𣆆𣌪㫤𣌫𣍫𣐘𣐙𣐚 𣐛𣐜𣐝𣐞𣐟𣐠𣐡𣐢𣐣树𣐤𣐥𣐦𣐧𣐨𣐩𣐪𣧯𣭉𣭊𣭋𣭌𣭍𣭎𣭏𣭐𣭑𣭒𣭓𣭔𣭚𣭕𣱟𣴂𣴃𣴄𣴅𣳕𣴆𣴇𣳖𣴈𣴉𣴊𣴋𣳗𣴌𣴍𤇈𤇉𤇊𤇋𤇌𤇍𤇎𤇏𤇐𤇑𤇒畑" ++
   "𤇓𤇔𤇕𤇖",
   "𤇗𤇢𤇘𤔄𤔅𤔆 𤙃𤙄𤞄𤞏𤞅𤞆𤤯𤤚𤤛𤤜㺽𤤝𤤞𤤟𤤠𤤡𤤢㺸𤤣𤤤𤤎𤤥𤤫𤤬𤤋𤫮 𤯃𤯘𤯙𤰸𤰹𤰺𤰻畓𤰼𤰽𤰾𤰿𤱀𤵈𤵌𤼨𤽑𤽒𥁌𥄣眞𥄤𥐱𥐲𥐳砘𥐴𥐵𥐶𥑀𥐷 𥐸𥐽𥘸𥘹𥘺𥘻𥘼𥙌𥝳𥝴䄳𥝵𥝶𥝹𥥁𥥂𥥃𥩛 竗𣢦𥩜𥫥𥫦" ++
   "𥫧𥫨𥫭𥸰",
   "籾𥸱𥾔𦍑𦏽𦏾𦓩 𦚳𦚄𦚔 𦚜 𦚅𦤀𦤷𦥗𦭔𦭨𦭕𦭜𦭖𦭗𦭘𦭙𦭚𦭛𧈴虾𧈵 𧈹𧈶𧈷𧈸𧗥𧙙 𧘺𧘻𧴨𧺉 𧺊𧺋𧺌𧺍𧾼𨊣䡄𨊤𨒓𨒔𨒕𨒖𨒗𨚹𨹏𨹐𨹑𩁶 𠃻𠂃𠄸𠅝𠉱 𠉷𠉸倂𠋃𠉹𠉺𠉻𠉼𠉲𠉽𠊠𠉾𠉿𠊀𠊁𠊂𠊃𠊞𠊄𠊅𠊆" ++
   "𠊇𠊈𠒓𠒔",
   "𠒕𠓯𠓰 𠖍𠖏𠖐𠖑𠖒𠗞𠗡𠙓剦𠝊𠝋𠝌𠝑𠝍𠝈𠡴𠡵𠤠𠤡𠦥𠦦𠩳𠩴𠭐𠭑𠭒𠭓𠳛𠳜唠𠳝𠳞𠳿  𠳟𠳠唡𠳡𠳢𠳣𠳤𠳥𠳦𠳧𠳨𠳩𠳪𡌇𡌈𡌉𡌊𡌋𡌌𡌍埗𡌚𡌎𡌏𡌐𡌜𡔧𡕦𡖘𡖙𡘳𡘤𡘥𡘦 㛡𡜾娧𡜿𡝗𡝀𡝁𡝘𡝂𡝃𡝄𡝅𡝆㛢𡝇𡥫" ++
   "𡥬𡨐𡨑宾",
   "𡭵𡯯𡱪𡱫 𡱬𡱭𡱮𡷯𡷰𡷱𡷲𡷳𡷴𡷵𡷿𡷶𡸂𡷷𢀢𢃄𢃃𢈨㡼𢌠𢌥𢌢𢌣𢏫㣣𢓹𢓺𢚙𢚚𢚛𢙣 𢙞𢙟𢙠𢚜𢙡𢚝𢭔𢭕𢭖𢭗𢭘𢭙𢭚𢬙𢭪𢭛𢭜𢭝𢭦 𢭞𢭟𢬚𢭠𢭡 𢭢𢬛𢭣𦐐𦐑𣁌𣂛𣃫𣃬𣃭𣃮𣆣𣆨𣆦㫬𣌯𣌰𣌱𣌲𣌳𣑏𣑑𣑒𣑽𣑓𣑔𣑕" ++
   "𣑖𣑗𣑘𣑙",
   "𣑚𣑛𣑜桗𣑝𣑞𣑟𣑯𣑠𣑡𣑢𣑣𣑲𣑤 𣑮𣢵𣭥𣭦𣭧𣭨𣭩𣭪𣭫𣭬𣴎𣵃 𣴏𣵄𣵅𣵆𣵇𣵈𣵉𣴐𣵊𣵋𣵌𣵍㳟𣵎𣵏𣵐𣵑𣵒𣵓𣵔𣵕𣵖𣵗𣵘𣵙𣵚𣴝𣵛𣵜𣵝𣴞 𤇾𤇿𤈀𤈁𤈂𤈃𤈄𤈅𤈆𤈇𤈘𤈈𤈉𤇳𤈊𤈋𤈛𤈌𤈍𤈎𤈏𤈐𤔏𤕡𤕹𤟁𤞬𤞭𤥃𤥄" ++
   "𤥅𤥆𤥇𤥈",
   "𤥉𤥤𤥊𤥋𤥌𤥍㻇㺸𤬹𤱗𤱘𤱙𤱟𤱚𤵪𤼫𤽝𤽞𤽟 𤽠𤽡𥁘𥁙𥅊𥅋𥅌𥅍𥅎𥑗𥎳𥎴𥑮𥑛𥑜 𥑝𥑞 𥑬𥘽𥙔𥘾𥙕𥙖𥘿𥙗𥙘𥙙𥙚𥙛𥙜𥞈𥞉 𥥘𥥙𥥚 𥩧𥩨𥩩𥩪 𥩫𥩬𥫾𥫿𥬀𥬁𥬂𥬃𥬄𥬅𥸹𥸺𥸻𥸼  𥾲𥾳𥾴𥾵𥾶𥾷𥾸缼𦊢𦍡" ++
   "𦍢𦐔 𦓫",
   "𦕂𦕈 𦕃𦕎𦕄𦕅𦚴𦚵   𦚶 𦣡𦤅 艳𦮚 𦮛𦮜𦮝𦮞𦮟荣𦮠𦮡𦮢𦮵𦮣𦮤 𦮥𦮦𦮧𦮨𦮯𦮩𦮪𦮫𦮬𦮭𦮳 𧆠𧉖𧘴䘧𧘼𧠌 𧰾𧲣𧴰𧴱𧺗𧺘𧺙𧺚𧺛𨊲𨊫𨊬𨛼𨛨𨛩𨛪𨟱𨤿𨳎𨹭𨹮𨹯𨹰𨹱𨹲𨹳难𩁸𩠺𠅧曺𠅤𠅥𠌇𠋄𠋅𠋆𠋇" ++
   "𠋈𠋉𠋥𠋊",
   "𠋋 𠋌𠋍𠋎𠋏𠋐𠒗𠒚𠒛𠗪𠗬𠗭𠗷𠗮𠗯𠙛𠙜𠙝𠝭𠝮 𠝯𠢁𠢂𠥏𠦭𨜊𠩾𠭩𠵔𠵕𠵖𠵗㖫𠵘𠵙𠵚𠵛𠵜𠵝  𠵞𠵟𡌻𡌶𡌼𡌽𡌾𡌿𡍀𡍁𡍂㙋𡍃𡍄𡍅𡌷  𡍆𡍇𡍈𡍉𡔭𡖥𡘽𡘿𡥮𡟧𡝵𡝶𡝷𡝸𡝹𡝺𡝻𡝼𡞎𡝽𡝾婲𡝿𡞀𡞁𡞂𡞃𡞄𡞅" ++
   "𡞆𡞇𡞈𡞉",
   "𡞊𡞋𡞌𡥯𡥰𡥱𡥲𡨪𡨫𡨬𡨭𡨮𡨯𡨰𡨱𡮃𡲄𡲅𡲓 𡲆𡲇𡲈𡲉𡲊𡲋𡸶𡸸𡸹𡸺㟢𡸻𡸼𡸽𡸾𡸿 𡹀𡹁𡹂𢃞𢃟𢃠𢃡𢉊𢉋𢉌𢉍𢉎𢉏𢉐𢌧𢏹𢏺𢏻𢒘𢒙𢒚 𢔞𢚞𢛷𢚟𢚠𢛰𢛸𢛹𢚡𢚢𢚣𢚤𢚥𢛺𢛻𢛼𢛽𢛾𢜟𢛿𢜀𢞌𢜁𢧂𢧃 𢧓𢩎𢮯𢮰𢮱" ++
   "𢮲𢮳𢯆𢮴",
   " 𢮵𢮶𢮷𢮸𢮹𢮺𢮻𢮼𢮽𢮾𢮿𢯁𢯀𢯂𢯃𢽑𢽒𢽓𢽔𢽕𣁚𣁐𣁑𣁸𣃸𣃹𣇆𣇋𣇌𣇍𣇎𣇏𣇐𣇑𣇒𣇓𣇔𣇕 𣌷𣌸𣍳𣒐𣒑𣒿𣒒𣒓𣒔𣒕𣒖𣒗𣒘𣒙梽𣒚𣒛𣒜𣒝𣒞𣒟𣒠𣒡𣒢𣒣𣒤𣒥 𣒦𣒧𣢿𣣀𣣁𣣂𣣃𣣄𣣅𣣆𣥵𣩃𣨒𣪟𣪑殻𣪒𣪓𣪔𣭾𣭿𣮀" ++
   "𣮁𣮂𣱌𣱣",
   "𣷀𣷁𣷂𤈺𣷃𣷄𣷅𣷆渕𣷇 𣷈𣵳𣷉𣷊𣷋𣷌𣷍㴎  𣷎𣷏𣷐𣷑𣷒𣷓𣷔𣷕𤈻𤈼𤈽𤈾 𤈿𤉀𤉁𤉂𤉃㷁𤉄𤉅𤉙𤉆𤉇𤉈 𤉉𤔓𤖂𤖃𤙦𤙧𤥥琓𤥦㻙𤥵𤥴𤥧𤥭𤥶𤥨𤥩𤥪𤥫𤥏𤥬𤫸𤭅瓸𤭆𤯤𤲅𤱯𤱰𤶂𤶃𤶄𤶋𤼭𤽨𤽩𤽷𤽤𤽪 𤿲𤿢𥁣" ++
   "𥁤𥁥𥁦笽",
   "𥁧𥁨盘 𥅲𥅽𥍩𥒄𥒆𥒇𥒈𥒞 𥒉𥒊𥒖𥒋𥒌𥒍𥙹𥚃𥙺𥙝𥙻 𥞟䅈𥞠𥞡𥞢秼𥥪𥥫𥥬𥥭𥥮𥩸 𥩹𥩼𥬡𥬢𥬣𥬤笹𥬥𥬦𥹑𥹒𥹖 絋𥿡  𥿖𥿗𥿘𥿙𦊵𦍬𦍯𦍰𦒼𦒽𦓭𦕛𦕜𦕝𦕞𦚆𦚇𦛭 𦛮 𦤎𦤏 𦨭𦨪𦨮𦫌𦯹𦯺𦯻𦯼莹𦯽𦰛" ++
   "𦯾𦯿𦰀𦰁",
   "𦰂𦰃𦰡𦰄𦰅𦰆𦰇𦰈𦰉𦰊𦰋𦰌𦰍𦰎𦰏𦰐𦰑𦰒𦰓𦰔𦰕𧉻𧉼𧉽𧉾蛏𧉿𧊀𧉦𧊁𧊂𧊃𧖲 𧙿𧙲𧙚𧟫𧠕 𧠖㒻𧠗 𧣅𧣆𧣇𧦈𧦉 𧦊𧦋𧦌𧦍𧯟 𧴻𧴼𧴽𧴾𧴿𧵀𧵁𧵂𧹜𧺯𧺩𧺪𧺫𧺬𧺵𧺭𧺮𧿢𨈤躮𨋄 𨓪𨓓𨓔𨓕𨚆 𨚇𨛽𨠅𨥉𨱟𨳓" ++
   "𨳕𨺊𨺋𨺌",
   "𨺍𨺎𨺏𨺐𨺑𨺒𨺓𩁽𩁾雫  𩇬𩉛𩲇𩲆 𠁆𠁇𠄂𠅭𠅮𠅯𠌍𠌎𠌏𠌐𠌑𠌒𠌓𠌔𠒟𠒠𠒡𠒣𠔡𠔢𣍼𠖕𠖖𠙡𠙧𠞑𠞒𠞓𠞔𠢊𠢋𠣷𠤤𠦰𠦱𠪎𠬄𠭪𠭫𠭬𠭭𠷨𠸌𠷩𠷪𠸍 𠷫𠷬𠷭𠷮𠷯𠷰𠷱𠷲𠸖𠷳𠸄𠸝𠷴𠷵𠷶𠷷喰𡈂𡈃𡈄𡎚𡍼𡏅𡍽𡍾𡍿" ++
   "𡎀𡎁塀塂",
   "𡎂𡎃𡎄𡎅𡎆𡎇𡖮𡙍𡞰𡟜𡞶𡞷𡞸𡞹𡞺𡞻𡟛𡞼𡞽𡞾 𡞿𡟀𡟁𡟂𡟃𡟎㜁𡟙𡟄𡟅𡟚𡟆𡟇𡟈𡟉𡟊𡥾𡥻𡩎𡩏𡩐𡩑𡩒𡩓𡩔𡩕𡮏𡯼𡲦𡲧𡲨𡴣𡺋 𡺌𡺍𡺎𡺏𡺤𠖙𢀤𢁆𢁇𢁈𢃽𢃾 𢉮𢉼𢉯𢉰𢉱𢉲𢌩𢌪𢍟𢒢𢔰𢔫𢝡𢜂𢜃𢜄𢜅𢜆𢜇 𢜈𢜉" ++
   "𢝢𢜊𢜋𢜌",
   "𢜍𢜎𢝣𢜧𢜏 𢜛𢝤𢜐𢜑𢞁𢜒𢝥𢜓𢧎𢰩𢯄𢰪 𢰫𢰬𢰭𢰮𢰯𢰰𢰱𢰲𢰳𢰴 𢰵𢰶𢯣𢰷𢰸𢰹𢰺𢰻𢱍𢰼𢰽𢰾 𢻐𢻑𣁕𣄂𣄄𣇼𣈇𣇽𣇾 𣇿𣈀𣈈𣈁𣈂𣈵𣈃𣈄 𣌻𣎉𣎁𣎂𦜳𣓫𣓬 𣓭𣓮𣓯 𣓰𣓱𣓲椫𣓳椖𣓴𣓵𠁋𣓶𣓷𣓸𣓹𣓺𣓻𣓼" ++
   "𣓽𣓾𣓿𣔀",
   "椛𣔁𣔂𣔃𣔄𣔅𣔆𣔇椧𣔈𣔉𣔊𣔋𣔌𣔍𣣗𣣘𣨩𣪜𣫸𣮘𣮤𣮙𣮚𣮛𣮗𣮜毵𣮝 𣮞𣮟𣱥𣷖㴠𣸲𣸳𣸴溂𣸵𣸶𣸷𣷗 𣷘𣸸𣸹𣸺𣸻𣸼𣸽𣸾𣸿𣹀𣷙𣹁𣹂㴡𣹃𣹄湺𤉼𤉽𤉾𤉿𤊀𤊁𤊂 𤊃𤊄𤊅𤊆𤊥𤊇𤊈𤊉𤊊𤊋𤊌𤊍𤊎  𤊏 𤊐𤊑𤊒𤊓" ++
   "𤊔𤊕 焩",
   "𤊖𤕖𤕗𤗡𤘎𤘏𤙺𤙻𤚋𤟲𤟳𤦓𤦔𤦕𤦖𤦗𤦭𤦘𤦫𤥻𤦙𤦚𤦛𤦅𤦜𤦝㻚 𤦬𤥹𤦞𤦤𤫽𤯫𤯪𤲏𤲐𤲆𤲇𤲈𤶬𤶭𤿬𥁳𥁴 𥆪𥆫𥆬𥏑𥏗𥒹𥒺𥒻𥒼𥚎𥚏𥚐𥙼𥚑𥚒𥚓𥚔𥚚𥚚𥚕𥚖𥚗𥞽𥟇𥞾 𥞿 𥦓𡩞𥪆𥪇𥪈𥪉𥭁𥭂𥭃𥭄𥭅𥭆𥭊𥭇𥭈𥭉" ++
   "𥹫𥹦 𥹧",
   "粫𥹨粬 𥿽𥿾𥿿𦀀𦀁𦀂𦀃𦀄𦀅𦀆𦈳𦋂𦋐䍙𦎕𦎖𦐵𦐶𦕧𦕨𦕩𦕪𦕲𦕫𦕬𦕭𦕮𦕯𦜢  𦜣𦝁𦜤𦜥𦜦𦜧𦜨𦜩𦚷   𦧚𦫏𦫚𦲉𦲷𦲊𦲋𦵞𦲌 𦲍𦲎𦲏𦲐𦲑𦲒𦲓𦲔𦲶𦲕𦲖𦲗菷 𦲘𦲙𦲚䓪 𦲛𦲽𦲜𦲝𦲞𦲟𦳀𦲠𦲡𦲢𦲣𦲤𦲥𦲦" ++
   "𦲧𦲨𦲩𦲪",
   " 𧆴𧆵𧆶𧊹𧊺𧊻𧊑𧊼𧗮𧗯𧚖𧚗𧙳𧚘𧚙𧟭𧟮𧣞𧦰𧦱𧦲𧦳𧦴𧦵𧦶䛇𧦷𧯣𧲹𧵕𧵾𧵖𧵗𧵘𧵙𧵚 𧻄𧻅𧻆𧻇𧻈𧻉𧻮𧻏𧻊𧻋𧻌𨀉跋𨀃𨈯𨈰𨈱𨈲𨔎𨔏𨔐𨔑𨔒 𨔓𨔔𨔕𨓿𨜟𨜠𨜡𨜭 𨠛𨠜𨠝𨠞𨥓𨥔𨥕𨥖𨥤𨥙𨥗 𨥘𨱫䦉 𨳧𨳨𨳩" ++
   "𨳪𨳫𨳬閖",
   "𨳭𨺱𨺴 𩂊𩂍𩂌𩇲𩇳 𢄈𩐗䪲𩖟𩚠 𩡭𣁽𩾐𪗄𠁌𠅴𠅵𠅶𠍉𠍊𠍋𠍌𠍍𠍎𠍏𠍐𠍑𠍒𠍓𠍔𠍕𠍖𠒤𠒩𠔪𠔫𠞳𠟁𠢘𠣻𠣼𠦼𠪖𠬊 𠺢 𠺁𠺂𠺃𠺄𠺅𠺆𠺇𠺈𠺉𠺊𠺋𠺌嗱𠺍𠻑𡈔𡏉𡏊𡏋𩫽𡏌𡏍𡏎𡏏𡏐𡏑𡏒𡏓𡏔𡏕𡕱𠁍𡙢𡠎𡟾𡟿𡠀" ++
   " 𡠁𡠂𡠃",
   "𡠕𡠄𡠅 𡦇𡦉𡩮𡩯𡩰𡩱寘𡩲𡩳𡩴𡮝𡲸𡲹𡲺𡻂𡻃𡻕𡻄𡻀𡻅𡻆𢊊𢊋𢊌𢍤𥮌彁𢐍𢒨𢔻𢔼𢔽𢔾𢔿𢕀𢝦𢟋𢞷𢞸𢞹𢞺𢝧𢞻𢝨𢝩𢝪𢞼 𢧛𢲁𢲂𢲃𢲄𢲅𢲆𢲇𢲈𢲉搢𢲊𢲋 𢲌𢲍𢲎𢲏𢲐𢲡𢲑𢻖𢾟𣁘𣂅𣄋𣄌𣈷𣈸㬙𣈹𣈺𣈻𣈼𣈽𣈾𣉀𣉁" ++
   "𣉂 𣉃𣎊",
   "𣎋𣖐𣕙𣕛𣕜𣕝𣕞榊𣕟𣕠𣕡𣕢𣕣𣕤𣖓𣕥𣕦𣕧𣕨𣕩𣕪𣕫𣖕𣕬𣕭𣕮𣕯榌𣕰𣕱𣕲𣕳𣕴𣕵𣕶𣕷𣕸𣕹榀𣕺楿𣕻𣖩𣕼𣣱𣣫𣦊𣨽𣪦𣪧𣮺 𣮻𣮼𣮽𣺑𣺒𣺓𣺔𣺕𣺖𣺗𣷚𣺘𣺙𣺚  𣺛𣺜𣺝𣺞𣺟𣺠𣺿𣺡𣺢𣺣𣺤𣺥𣺦𣺧𣹛𣻑𣺨𤋋 㷚𤋌𤍏" ++
   "𤋍𤋎𤋏𤍎",
   "𤋐𤋑𤋒 𤋓𤋔𤋕𤋖𤋗𤋘𤋙𤋺𤋚𤋛煅𤋜  𤋝𤋞𤋟𤋠𤋡𤋢𤋣𤋤𤋥㷛𤋦𤋧𤖎𤚘𤚙 𤠊 𤠦𤠧𤦽𤧟㻢𤦾𤧞𤦿𤧀𤧁𤧂𤦟𤧃𤧄𤧅𤧆𤧇㻣𤧈𤧉𤧣𤧊𤧋𤧌𤧍𤧎𤧏𤧐𤧑𤧒𤧓瑜𤧔𤬄𤭥𤯮𤲠𤲡𤷝𤷞𤾃𤿺𥁿𥂀𥇨𥇩𥇪𣖦𥏡 𥓛𥓜𥓝𥓞" ++
   "𥓟𥓠𥓡𥓢",
   "𥓣𥓤𥓥𥓦碜𥓧𥚰𥚘𥚱𥚙𥚲𥚳𥚴𥚵𥚶𥚷𥚸𥚹𥟢𥟣𥟤𥟥𥟦𥟧𥟨𥟩𥦭𥧏𥦮𥦯𥦰𥦱𥪒𥪓𥪔𥭹筻𥭺𥭻𥭼𥭽𥭾𥭿𥮀𥮁𥮂𥮃𥮄𥺗𥺄𥺅𥺉𥺆𥺇𦀬𦀭𦀮𦀯𦀰𦀱𦀲𦀳𦀴𦀵𦀶𦀷𦋒𦑄𦔀𦖃𦖄媵𦝺𦝻𦝼𦝽𦝾 𦝿𦞇𦞀𦩃𦴴䝉𦴵𦴶𦴷𦴸𦴹𦴺" ++
   "𦴻𦴼𦴽𦴾",
   "𦴿𦵀𦵁𦵂𦵃𦵄𦵅𦵆𦵇𦵈𦵉𦵊 𦵋𦵌𦵍𦵎𧋧𧋨𧋩𧋪𧋫𧋬𧋭𧋮𧗷𧚚𧛍䘵𧚣𧛎𧠱𧠲𧠳𧧤 𧧥𧧦𧳈𧵴𧵵𧵶𧵷𧵸𧵹𧵺𧹡𧻟𧻠𧻡𧻢𧻣𧻤𧻥𧻦䟳𨀱𨈽𨈾𨈿𨋴𨋵𨋶 𨐗𨕁𨕂𨕃𨕄𨕅𨕆𨕇𨕈𨕉𨕊𨕋郒𨚺𨝄𨤪𨥭鉴鈸𨥾𨥮𨥯𨥰𨥱𨥶𨱹" ++
   "閠 𨴄𨳸",
   "𨴅𨻚𨻛𨻜𨻝𨻞𨻟𨻠𨻡𩃅𩂚𩂛𩂜𩇘𩇙𩇚𩉮䩗𩑫𧶃 𩛖𩚽 𣈮𩫼𩵓𩶷𪊌𪎎𪋿𠁶𠄆𠅾𠎄𠎅𠎆𠎇𠎈𠎧𠎉𠎊𠎋𠎌𠎍𠎎𠎏𠎣𠎐𠎑𠎒𠎓𠎬𠎔𠎕𠎖𠒪𠒫𠖞冩𠘈𠘉𠙨𠙩𠙪𠚚𠟙𠟚𠟛𠢨𠤁𠤨𠥷𠦽𠦾𠽠𠪠𠪢𠬏𠮅𠻾𠻿𠼀𠼁𠼖𠼂𠼃𠼄𠼅𠼆" ++
   "𠼇𠼈𠼢𠼉",
   "𠼊𠼋𠼌𠼔𠼩𠹮𠼍𠼎𠼏𠼐𠼑𠼒𠼓𡈛𡈜𡈝𡐓𡏿𡐀𡐁𡐂𡐃𡐄𡐊𡐅𡐆𡐇𡐈𡔺𡕳𡙯𡙰𡙱𠁒 𡪚𡡠嬈𡠫𡠤𡠬𡠭𡠮𡠯𡠰𡠱𡠲𡠳𡠴𡠵𡡅𡠶𡦒𡦓𡪈𡪉𡪊𡪋𡬿 𡳊𡻶𡻷𡻸𡻹𢄫 𢆤𢇎 𢊞𢊟𢊠𢊡𢊢𢊣𢊤𢊥𢊦𢐘𢕠𢕡𢕢𢕣𢕤𢞽𢞾𢠋𢞿𢟀" ++
   " 𢠌𢞍𢠍",
   "𢠎𢡞𢠏𢠐𢟁𢠑 𢟂𢧪𢧫𢳣𢳤𢳥𢳦𢳧𢲒𢵊 𢳨𢳩𢳪𢴁𢳫𢳬𢳯𢳭𢳮𢳰𢳱𢳲𢳳𢳴𢳵𢳶𢳷𢳸𢳹𢳾𢳺𢳻𢳼𣉣𣉤𣉥𣉦𣉧𣉨𣘋𣘍㮼𣘎𣘏㮤𣘔𣗔𣗕𣗖𣗗𣗘𣗙𣗚𣗛𣗜𣗝𣗞𣗟𣗠𣗡𣗢𣗣𣗤𣗥𣗦𣗧𣗨𣗩𣗪𣗫𣗬𣛬𣗭𣗮𣗯𣘀𣗰𣤄 𣤅歲𣪵" ++
   "𣫺𣯖𣯗𣯘",
   "𣯙𣺩𣼀𣼁𣼂𣼃𣼄𣼅𣼆𣼿𣼇𣼈𣼉𣼊𣺶𣼋𣼌  𣼍 𣼎𣼏𣼐𣼑𣼒𣼵𣼓𣼔𣺪 𣿁𣼕𣼖𣼗𤌞𤌟𤌠𤌡 𤌢𤌣熕𤌤𤌥𤌦𤌧𤌨𤌩𤌪𤌫𤌇𤌬𤌭𤌮㷨 𤌯𤌰𤍈𤌱𤌲熘𤌳 𤌴𤌵𤌶𤕙𤖑𤗧𤚸𤚹𤚺𤚻𤛈𤡍𤢉𤡐𤠨𤧻𤧼𤧽𤧾𤧿瑸𤨀𤨁𤨂𤧤" ++
   "𤧥𤨃𤨄𤨅",
   "𤨆𤨇𤨓𤨈𤨉𤧦𤨊𤨋𤨌𤬋𤯴𤰊𤲱𤸝𤾡𤾋𤾌𤾏𤾍𤾎𥀆𥂆𥈢𥈣𥈤𥈥𥈦𥈧𥈨𥏱碹𥔣𥔒 𥔓𥔔𥔕𥔖𥔗𥔘𥔙𥕋𥔚𥔛𥔜 𥔝𥔞𥔟𥔠𥛊𢊬𥛋𥛌𥛍𥛎 𥛏𥠐𥠑𥠒𥠓𥠔𥠏𥠕𥠖𥠗稳𥠘𥧆𥪟𥪠𥪤𥪡𥮵𥮶𥮷𥮸𥮹𥮺𥯐𥯆𥮻𥮼𥮽𥮾𥮿𥯀𥯁𥯂" ++
   "䈂𥺧𥺨𥺩",
   "𥺪𥺫𥺬𥺼𥺭𥺮糀𥺯𥺰𥺱糁𥺴𥺲𦁦𦁧𦁨𦁩𦁪𦁫𦁬𦁭𦁮𦁯 𦈾𦈿𦉀𦋨𦑒𦑓𦑔𦑕𦖑𦖒𦖓𦖔𦖕𦖖𦖗𦖘 𦖙𦖚𦖛𦞷𦞸𦞹 𦞺𦞻𦞽 𦞼𦞵𦞧𦣫𦣬𦤖𦥄𦧣𦩘𦩓𦩔𦫠𦶱𦶲𦶳𦷪 𦶴𦷰𦶵𦶶𦶷𦶸𦶹𦶺𦶻𦶼𦶽𦶾𦶿𦷀𦷁𦷂𦷃 𦷄𦷅𦷆" ++
   "𦷼𦷇𦷈𦷉",
   "𦷊𦷋𦷌𦺄𦷍𦷎𦷏𦷐𦷑𦷒𧇊𧇋𧌶𧌷𧎟𧌸𧌹𧌺蝄𧚾𧛰𧚿𧛀𧟷𧟸𧟺𧡃𧡄𧨏𧨐𧨑𧨒読𧨓𧨔𧨕𧨖  𧳓𧳗 𧶰𧶘𧶐𧶑𧶒𧶗𧶓𧹤𧼁𧼂𧼃𧼄𧼅𧼆𧼇𨁚𨁛𨉎𨉏𨉐𨌙𨌚𨌛 𨌜 𨐙𨐚䢆𨦊𨕮𨕯遤𨕰𨕱𨕲𨕳𨕴𨕵𨕶𨠺𨠻𨠼𨡚𨠽𨡂𨦋𨦠" ++
   "𨦌𨦍𨦎𨦫",
   "𨦏鉷𨦐𨦑𨦒𨦪銯𨦓𨦔𨦞𨦨  𨼀𨼁𨼂𨼃𨼄𨼅𨿄𨿅 𩂮𩂲  𩇷𩈓𩎞𩒅𥎀𩓈𩡁𩢁𩢂𩢃𩢄𩫄𩫅𩫆𩲕𩲖𩲗𩵘𩵙 𩾩𩾪𩾫𪊎𪌃𪎳𠮂𠁓𠆃𠆄𠆅𠏌𠏍𠏎𠏏𠏐 𠏑𠏒𠏚𠒳𠒴 𠘓𠘎𠙫𠤃𠥡𠧁𠧂𠪵𠅀𠾘𠾙𠾚𠾛𠾜𠾝𠾞𠾟𠿮𠾠𠾡𠾆" ++
   "𡈥𡐴𡐵𡑑",
   "𡐭𤍢𡑔𡑒㙭𡐶𡐷𡐸𡐹𡐺𡐻𡑨𡐼㙮𡕷𣊖𡙾𡙿𡡩𡡪𡡫𡡬𡡭𡡮𡡯𡡝𡡰𡢅𡡱𡡲𡡳𡡴𡡵𡡶𡢄𡡷𡢃𡦚𡪧𡪨𡪩𡪪𡪫𡪬𡪷𡪭𡪮 𡭅𡳓𡳔𡳕𡳖𡳗𡼦𡼧𡼨 𡼩𡼪𢀅幤𢇐𢊷 𢊸𢊹𢐢𢐣𢕳𢕴𢢏𢠒𢠓𢠔𢠕𢠖𢠗𢠘𢡡𢡦𢡧𢠙𢡨𢠚𢡩𢨄𢨅 𢨆" ++
   "𢧽𢵐𢵑𢵒",
   "𢵓𢵔𢵕𢵣摾𢵖𢵗𢵘𢵙𢵚𢵛 𢵜𢵝𢵞𢵟𢿗 𣁠𣁡𣄗𣄹𣊏𣋈𣊐𣊑𣎘𣎙𣙄𣙅𣙆𣙙𣛮樫𣙇𣙈 𣙉𣙊𣙋𣙌𣙍𣙎𣙏𣙐𣙑𣙒𣙓𣙔𣙕𣙖𣤕𣦚𣩘𣫼𣫽𣾆𣾇𣾈𣾉𣾊𣾋𣾌 𤀟𣾍𣾎𣾏𣾐𣾑𣾒𣾓𣾎𣾔𣾕𣻊𣼘 𣾖𣾗𣾘𣾙𣾚𣾛𣾜𣾝𣾞𣾟潆 " ++
   "𣾠𣾡澚𣾷",
   " 𤎖𤍨𤍩𤎌𤍪𤍫𤍬𤍭𤍮𤍯𤍿𤎄𤍰𤍱𤎅𤍲𤍳𤍴𤍵𤍶 𤍷𤍸𤍹𤍺𤍻𤍼熜𤖔𤛕𤠩𤨫𤨬𤨭𤨮𤨯𤨰𤨾𤨱𤨲𤨳𤨴𤨵𤬑㽓𤳀𤹂𤹃𤹄𤹅𤹆𥂌𥂍𥂎𥂏𥂐𥂑𥉣𥉤𥉥 瞋 𥏶𥔶𥔷𥔬𥔸𥔹 𥔺𥛣𥛢𥛵𥡇 𥡈𥡉𥡊𥡋𥡌𥪨𥪩𥪪 𥰋𥰆𥱳𥰌" ++
   "𥰍𥰎𥰏𥰐",
   " 𥰑篆𥰒𥰔𥰕𥰖 𥰓𥰗𥻙𥻚𥻛 𥻜𦂦𦂧𦂨𦂩𦂪𦂫 䌁𦂬𦂭𦂮  𦂯𦂰𦂱𦉄𦉅𦋷𦋸𦑫𦑬𦑡𦔒𦖯𦖰𦖱𦖲𦖳𦖴𦖵𦖶𦘢𦟪𦟫𦟬𦟭䐽𦣭𦤛𦥇𦧨𦫐𦫧𦫨𦫩𦹎𦹏𦹐𦹲𦹑𦹒䔫䔦𦹓𦹔𦹕𦹖𦹗𦹷𦹘𦹙𦹚𦹛𦹜𦹮𦹝䔧 𦹞䔨𦹟 𧇗𧎉" ++
   "𧎊 螆𧎋",
   "𧎌𧎍𧎎蜨𧎏 𧎚𧎐𧎑𧎒𧎓𧜒𧛱 𧟾𧟻𧡗𧩉𧩊𧩋𧩌 𧩍𧩙𧩎𧩏𧯴𧱥𧶦𧶧𧶨𧼢𧼣𨂋𨂌𨂍𨂎𨉘 𨉙𨌻𨌼𨌽𨌾𨑈𨖔𨖕𨖖𨖗𨖘𨝽𨛾𨝾𨝿 𨡛𨡜𨧤𨧁𨧽𨧂𨧖𨧃𨧄 𨧜𨧅𨧆𨧇𨧡𨧈𨧉𨧊𨧋鋲𨧌𨧍𨴵𨴶𨵇𨴷𨼛𨼜𨼝𨼞𨼟𨼠𨽻𨽺𨿾" ++
   "𩃆𩃇𩃈𩃉",
   "𩃊 𩒠𩒡𩗌𩗍𩛱𩛗𩡂𩡆𩢣𩢥𩢦𩫋𩫌𩬦𩬧𩬨𩬩𩲮𩲯𩲰𩵳 𩵼𩵴 𩾀𩵵魹 𩿏 𪎏𠙰𠂅𠎗𠏶𠏷𠏸𠏺𠏻𠒺𠒻𠒼𠒽𠔴𠔵𠖢𠘔𠘑𠙮𠙯𠠈𠢸𠨉𠪽𠪾𠮈𠿾噺𠿿𡀀𡀁𡀂𡀃𡀄𡀅𡀆 𡀇𡀈𡀉𡀊𡀋𡀌𡀍𡀎𡀏   𡈬𡑫 𡑬𡒇𡑭𡕸𡚋" ++
   "𡢤𡢥𡢦𡢧",
   "𡢾𡢨𡢩𡢪𡢍𡢫𡢬𡢿 㜬𡢭𡢮𡦤𡦥𡫇𡫈𡫉𧶼𡫊𡫋𡫌𡫍𡫎𡰙𡳦𡽌𡽍𡽎𢀆 𢋍𢋎𢋏𢋐彜𢖁𢖂𠔳𢡪𢡫𢢲𢡬𢡭𢣌𢢮𢢳𢢑 𢡮𢢴𢡯𢷉𢶧𢶨𢶩𢶪𢶫𢶬𢶭𢶮𢶯𢶰𢵠𢶱𢻡𢿣𢿶旙𣊯𣊰𣊱𣊺𣊲𣊳𣍌 𣎠𣎡𣚰𣚱𣚲𣚳𣚴檨𣚵𣚶𣚷𣚸𣚹𣚺" ++
   "橲𣚻𣚼𣚽",
   "𣚾𣚿𣛟𣛀𣛁𣛂𣛃𣛄橸 𣛅𣛆𣛇𣛈𣛉𣛊𣜼𣛋𣛌𣛍𣛎𣛏𣛐𣛑歚𣤝𣤞𣩤𣩥𣫅𣫆𣫇𣫿𣯿𣰀𣰁𣰂𣿵𤁜𣿶𣿷𣾰𣿸𣿹𤁝𤁐𣿺𣿻𣾢𣿼𣿽𣿾𣿿瀹𤀀𤎫𤏁𤏂𤏃𤏄𤏅𤏆𤏇𤏈𤏉𤏊𤏋𩃯𤏗𤏌𤏍𤏎𤐢𤏏𤏐 𤏑𤏒𤏩𤏓𤏔𤏕𤔸𡀻𤡽𠕯𤢡𤩓𤩔㻻" ++
   "𤩕𤨼𤩖",
   "𤩦㻼𤩗𤩘𤩙𤩚𤩛𤩧𤩜  𤩪𤩝𤨽𤩞𤩥𤳡𤳍𪀑𤹯𤹰𥀚𥂚𥂛𥂜𥂞𥂟䀈𥊎 𥏽 𥕞𥕟𥕠𥕥𥕧𥕨𥕩 𥕪𥖏𥕫𥕬𥕭𥛷𥛸𥛹𥛤𥛺𥢱𥡵𥡶𥧿𥨀𥨁𥨂𥨃𥪮𥪭𥱑𥱒 𥱓𥱔𥱕𥱖𥱗𥱘𥱙𥱚𥱛𥱜𥱝𥱞𥱟𥱠𥱡𥱢𥱣𥱤𥱌𥱦𥻱𥻲𦃲𦃳𦃴𦃵𦃶" ++
   "𦃷𦃸𦃹𦃺",
   "𦉌𦉋𦌛𦏎𦎳𦑿翺𦔣𦔚𦗄𦗅𦗆𦗇𦗈𦗉 𦠙𦠜𦠚𦥌𦦎𦩾𦻫𦻬𦻭𦻮𦻯𦻰𦻱𦻘𦻙𦻚𦻛𦻲𦻳𦻴𦼇 蕤 𦻵𦼕 𦻶𦻷𦻸𦻹𦻺𦻻𦻼𦻽𦻾𦾧𦻿𦼀𦼁𦼂𦼃𦼄𦼅𧇩𧇪𧇫𧏞𧏟 𧏠𧏡𧏢𧏣𧜾𧜿𧝀𧝁𧡱𧡲𧡳𧪈𧪉𧪊𧪋𧪌𧪍𧪎𧪏𧪐𧪑𧪒 𧳱" ++
   "𧶾𧶿𧷀𧷁",
   "𧷂𧷃𧹮𧼷𧽗𧼸𧼹𧼺𧼻𧼼𧼽𧼾𧼧𧼿  𨃀𨃁躾𨉧 𨉨𨍘𨍥𨍙𨍚𨐤𨗍𨗎𨗏𨗒𨞟𨜢𨡽𨡾𨧿𨨥𨨀𨨁錻𨨂𨨃𨨄﨨𨨅𨨆𨨇𨨖𨨈𨨗𨨉𨨊鍀𨨋𨨌𨨩錺𨨍 𨨎𨨐𨨑𨨝𨨒𨨓 𨨔𨨕𨲍𨵔𨵕𨵖𨼳𨼴𨼵𨼶𨿺𩃣𩃦𩃭𩃧𩃨𩃩𩃪𩃫𩈧𩈠䩮𩐪𩓉" ++
   " 𩓊𩓋𩓙",
   "𩓌𩓍𩓎 𩗡𩜛𩜜𩜝𩜞𩡇𩣑𩣉𩫐𩫑𩬿𩭀𩭁𩬰𩭂𩳄𩶛𩶒𩶓鮖𩶔𩶕  𩿳𩿴𩿵𩿶𪉠𪊞𪊠𪊡𪌜𪎟𠁖𠐒𠐟𠐕𠐖𠐗㒞𠐘𠓂𠓃𠓄𠖡𠘛𠘜𠙱𠠓𠬗𠮏𡁟𡁠𡂬  𡁡𡁢𡁣𡁤𡁥 𡒙𡒚𡒛𡒜𡒝𡒞𡒟𡒠𡣚𡣛𡣜𡣝𡣞𡣟𡫕𡫖𡫗𡫘𡫠𡮴 𡽮𡽯" ++
   "𡽰𢅣 𢋕",
   "𢋖𢋗𢋘𢐰𢢵𢢶𢣁𢣷㦠𢣋𢣨 𢣩𢢷𢨕𢷦𢷧𢷨𢷩𢷪𢷫𣀊𣀋𣀌𣁤𣋔𣋕𣋖𣋘𣎥𠁛𣜏𣜐 𣜑𣜒𣜓𣜔𣜕𣜖𣜗𣜘𣜙𣜚𣜯𣜛𣜜𣜿𣜝𣜞𣜬𣜟𣤤𣦤𣦥𦉑𣫾𣰑𣰒𣰓𣱔𤁞𤀡𤀿𤁀𤁁𤁂𤁃𤁄𤀠𤁅 𤁆𤂰𤁇𤁗𤀁𤂱𤁚𤁈𤐄𤐅燵𤑏𤑐𤐆𤐇𤐈𤐉𤐊" ++
   "𤐋𤐌𤐍𤐎",
   "𤐏𤐐𤐑𤔳𤔴𤔵𤗼𤗽𤢰𤢱𤢲𤢳㼁𤩻𤩼𤩽𤩾𤩿𤪀𤪁𤪂𤯹𤳚𤺡  𥂭𥂮 𥋈𥋉𥋊𥖂𥖃𥖄𥖅𥖆𥖇𥖈𥖉𥖊 𥜇𥜈𥜁𥜉𥜂𥜊𥜋𥜌𥢧𥢘𥢙𥢚𥢛𥢜穐𥢝𥨚𥪲𥲰𥲱簔𥲲𥲳𥲴𥲵𥲶𥳀𥲷𥲸𥲹𥲺𥴝𥼌𥼍𥼎𥼵𥼏𥼐𥼑𥼒𦄢𦄣𦄤 𦄥𦄦𦄧𦄨" ++
   "𦄩𦄪𦄫𦄬",
   "𦄭𦄮𦉒𦉓𦌙𦎿𦒋𦒌𦔣𦔤𦗱𦗘聰𦡎𦡏𦡕𦡐𦡑𦡒𦡓𦠂𦡔𦣱𦤤𦫑𦽼𦽽𦽾𦽿𦾀𦾟𦾁𦾂𦾃𦾄𦾅𦾆𦾇𦾈𦾛𦾉𦾊𦾋𦾌 𦾡𦾍𦾎𧇳𧇴𧇵𧐤𧐥𧐦𧐧𧐨𧐩𧐪 𧐫𧗍𧘁𢖍𧝰𧢀𧢁𧫀𧫁𧫂𧫃𧫄𧫅𧫆𧫇𧫈𧳾 𧷙𧷜𧷚𧹵𧽘𧽙𧽚𧽛𧽜𨃬䠚𨃳𨉲" ++
   "𨉳𨎂𨎃𨐪",
   "𨐫𨐬𨐭𨗶𨘀𨗷𨗸𨗹 𨢔𨢕𨢖𨤛𨪆𨩌𨩍𨪃 𨪂𨩎𨩏𨩐𨩑𨪁鎇𨩒𨩓𨩔𨩕 𨩖𨩗鎅𨩘𨩛𨩜𨩝𨩞𨩟𨩠𨩡𨩼𨩢䤼 𨩣𨩤𨵳𨽅𨽆𨽇𨽌𩀒 𩀓𩄹𩄃𩄍𩈰𩋕𩏀𩓲𩓳𩓴𩓵𩓶𩓷𩗺𩗻𩝅𩝆𩡉𩣧𩣨𩫘𩫙𩭕𩭖𩭗𩳚𩳛𩳜𩶸𩶹𩶺鮱𩶻𩾉𩶼𪀰" ++
   "𪀱𪀲𪀳",
   "𪀴𪀵𪀶鵇𪀷𪊲𪎐𪌦𪎢𪐸 𠐮 𠐯𠐰𠐪𠐫𠓉𠔷𠘠𠙲𠠟𠥥𠧊𠫀𠫁𠫂𡂷𡂸𡂹𡂺𡂻  𡂼𡂽𡂾𡃲𡒵𡒷𡒸𡃟𡒹𡓕𡒺𡒻𡕊𡣲𡣳𡣴𡣺𡣵𡤂𡫢𡫣𡾎𡾋𢋤𢋫𢋥𢐵𢖓𢣪𢣫 𢣬𢣭𢤗𢣮𢣯𢣰𢸎𢸏𢸐𢸙𢸘𢸑𢸒𢸓㩬𢸔𢸕㩫𢸖𣁥𣋪𣋫𣋬𣋭 " ++
   "𣋮𣎬𣟂𣝩",
   "𣞁𣝪𣝫𣝬𣝭𣝮𣝯𣝰㯴𣝱𣝲𣝳𣞌𣝴𣝵𣝶𣰤𣰪𤂎𤂯𤂏𤂐𤂑 𤂒𤂓𤂔𤂕𤂖𤂗𤂘𤂙𤂚𤂛𤂜𤐹𤐻𤐺𤐼𤐽𤐾𤐿𤑰𤑀𤑁𤣀𤣁𤪤𤪗𤪥𤪘𤪙𤪚 𤪛𤪦𤪜𤪝𤪞𤪟𨫎𤫈𤪠𤬙𤰍𥂿𥋩𥋪𥖢𥖣𥖤𥖥𥖦𥜕𥜗𥢿𥣀𥣁𥣂𥣃𥣄𥣅𡤍𥨣𥪾𥴃𥴄𥴅𥴆𥴇" ++
   "𥴈𥴉𥴊𥴋",
   "𥴌𥴠𥴍𥴎𥴏 𥼦𥼧𥼨𦅝𦅞𦅟𦅠𦅡𦅢𦅣𦅤𦅥𦉗𦏏𦏐𦒙𦒚𦗪𦗫𦗬𦡾𦡿𦢀  𦢁𦢂𦣳𦤥𦦟𦦠𦧳𦨀𦿫𦿬𦿭𦿮𦿯 䕜𦿰𦿱𦿲𦿳𦿴𦿵𦿹𦿺𦿻𦿼𦿽𦿾𦿿𧀀䕝𧀁𧀂𧈃𧒆𧑹 𧑺𧑻𧑼𧒄𧑽𧑾𧑿𧞆𧞇𧠀𧠁𧢈𧢉𧢊𧫵 𧬥𧫶𧷫𧷬𧷭𧷮䞇" ++
   "𧷯𧷰𧽬𨄡",
   "𨄢𨄣𨄤𨄥𨄦𨉻𨉼𨎑𨎒𨎓𨘎𨘏𨘐𨢳𨤶𨫆𨪡𨪢鎹𨪣𨫌𨪤𨪥𨪦𨫋𨪧 𨪨𨪩𨪪 𨪫𨪬𨪭鎿𨪮𨪯𨪰𨶌𨶍𨶎𨵷𨶒𨶏𨽒𨽓𨽔𨽕𩄩 𩋳𩋴𩔍𩔎𩔏𩔐𩘔𩝱𩝲𩤏𩤄𩤆 𩤇𩫜𩫝𩭭𩭹𩭮 𩳬𩷝𩷞𩷟𩷠𩷡𩷢𩷣𩷤𩸺𩷥鯏𩷦𪁫𪁬𤑎鵤𪊽𪊾𪊿" ++
   "𪌴麿𪔒𠑀",
   "𠑁𡄂𡄃𡄄𡄅𡄆𡓗𡓌𡚘𡤆𡤇𡦯𡦰𡫪𡫲𡾢𡾣𡾤𢅶𢋵𢋶𢋷 𢤻𢤥𢤺𢤼𢤽𢤾𢸷𢸸𢸹𢸺𢸻𢸼𢸽𢸾𢸿𢹋 𢹀𣀢𣁧𣃓𣋺 𣞼  𣞥㰇𣞶 𣞦𣞻𣞧𣞨𣞩𣞪𣞫𣞬𣞿𣞭𣞮𣞯𣤮𣬀𤂝𤂞𤃋𤃌𤃍𤃎𤃏 𤂟𤃐𤃑𤃒𤃓𤃔  𤑝𤑞𤑟𤑠㼅𤪺𤪼" ++
   "㼆𤪵𤪽𤪶",
   "𤪷𤪸𤪨瓊𤯾𤯼𤻡𥃄𥃅𥌔𥖮𥖯𥖰𥖱𥖹𥣧𥵆 𥵇𥵈𥵉𥴞𥴟𥵊𥵋𥵌𥵍𥵎 𥽆𥽋𦆐𦆑 𦆒𦆓𦆔𦉛𦗲𦗸𦗹𦢔𦢤𦢗𦢘𦤩𦦮𦪯𧁙𧁚 𧁛𧁜𧁝𧁞𧁟𧁠𧁡𦾪𧁢𧁣𧁤𧁥𧁦𧁧𧁨𧁩𧁪𧁫𧁬𧁭𧁮𧁯 𧒲𧒳𧒴䗹𧒵𧒶𧒷𧒸𧒹𧒺𧒻𧞈覸𧬙𧬚𧬛" ++
   "𧰖𧸌𧸍𧸎",
   "𧸏 𧾃𧾄𧾅𨊃𨊄𨎰 𨘦𨘧𨘶𨘨𨘩  𨫧𨫨𨫩䥓𨫪𨫫 𨫬𨫭𨫮𨫯𨫰𨫱𨬌𨫲𨫳𨫴𨫵𨫶𨫷𨫸𨶣𨶤𨶥𨶦𨶧 𨽜 𩅋𩇡𩌕 𩌖𩌗𩔬𩔭𩘢𩘣𩞖𩞗 𩤮𩤰𩤱 𩫟𩮋𩮌 𩮍𩳼𩳽𩳾𩳿𩸗𩸭𩸘鯳𩸙 𩸒𩸚𩸛𩸜䱩 𪂗䳥𪂘𪂙 𪏄𠑏" ++
   "𠓍𠫇𡄜𡄝",
   "𡄞𡓧𡓩𡓪𡓫𡤕𡳱𡳲𡾶𢖠𢥊𢨠𢹠𢹡𢹁𢹢𣌃𣌄𣟙𣟚𣟛𣟜𣟝 𣟞𣟟𣟠𣟡𣟢㰒𣟣 𣰱𤄅𤄆𤄇𤑲𤒊𤒋𤒈 𤒌𤒍𤒎𤒏𤒐𤕂𤕃 𤫁𤫂𤫃𤫄𥃋𥌢  𥗃𥗄𥗅𥗆𥜞𥜥𥣳𥣴 𥣵𥨸𥩈𥫊籏𥵺𥵻𥽕𥽖𦆱𦆲𦆳 𦆴𦆵𦒤𦘀𦘁𦘂𦢬 𦦳𧂶𧂷" ++
   "𧂸𧂹𧂺𧂻",
   "𧂼𧂽𧂾𧂿𧃀𧃁𧃂𧃃𧃄𧃅𧃆𧃇𧓣𧓤𧓥𧓦𧓧 𧞵𧞡𧢕𧬻𧬼𧬽𧬾𧰔𧸠𧸡𧸢𧸣𧸤𧾖𧾗𧾘𨆔𨆕𨆖𨆗𨆘𨊏𨊐𨎼𨐻𨘽 𨣟𨤞𨬣𨬤𨭉𨬥𨬦𨬧𨬨鐥𨬩𨬪𨬮𨬯𨭎𨬰鏹𨬱𨬲𨬳𨬴𨬵𨬶 𨬷𨭐𨬸 𨬹𨬺𨬻𨬼𨬽𨬾𨶸𨶹𨽢𨽣𩁁𩅭 𩍒𩌷𩏛𩔿" ++
   "𩘴𩡛𩥆𩥚",
   "𩥛𩫡𩫢𩫣𩫤𩮧𩮨𩮩𩴏𩴫𩹖𩹗𩹘𩹞𩹙𩹚𩹛𩹜 𩹨 𪄬𪃢𪃳𪋒𪍖𪏎𪑡𪚛𪚴𠑜兤𠓒𠕱𠙳𠠬𠮔 𡄿𡅀𡓹𡓺𡓽𡓻𡤜𡤝𡫿𡬀𡳷𤳾 𢒶𢥔𢹷𢹹𢹺𢹻𣁩𣠂𣠃𣠄𣠅𣠆𣠇𣠈𣠉𣠊𣠋𣠵 𣰹𤄞𤄟𤄠𤄡 𤄢𤄣𤄤𤄬𤒳𤒵𤒶𤒷𤒸𤫐𤳺𤼇𤾽𥃗" ++
   "𥃒𥗛𥗖𠑝",
   "𥩃𥫏𥶣𥶤𥶥𥶦𥶧𥶨𥶩𥽝𥽞𦇉𦇊𦇋𦇌𦘆𦘇 𦣅𦣵𦦴𦦸𦦵𧃽䕷𧃾𧃿𧄀𧄁𧄂𧄃𧄉𧄄𧄅𧄆𧄇𧔑𧔒𧔓𧔔𧔕襷𧢘𧢙𧸼𧸭𧸮 𨆻𨆼䡸𨐽𨙇𨙈𨙉𨙊𨟡𨟧𨣫𨤠𨤸𨭢𨭧𨭨𨭩𨭪𨭫𨭭𨭮𨭯𨭰𨭱𨭲𨮏𨭳𨭴𨭵𨭶𨭷𨷉𨷊闦𨷋𨷌𨷍𩁑  𩉅𩕙" ++
   "𩕚𩕛𩙀𩟏",
   "𩡞𩥻𩪓𩮼𩴖𩴰 𩺍𩺎鰯𩺏𩺐𩺑𩺒𩺓𩺔𩺕𩺖𪄣𪄔𪋛𪐊𪗎𠑦𠑨𠑧𠓓𡅣𡔄𡚞𡤦𡤪𢥬𢥤𢺏𢺐𣀴𣌎𣠥𣠦𣠧 𣠨欌 𣠩𣠪𣠫𣠬𣰾𤅂𤅃𤄳𤓁𤓂𤓃𤫖𤫗𥗡𥗢𥜫𥫑𥷌𥷍𥷎𥷏𦇞𦇟𦇠𦇡𦣶𧄬 𧅔𧄭𧄮𧕁𧕂𧟇𧢠𧢡𧭰𧭱𧭲 𧸴𧸵𧸶𧾦𨇌" ++
   " 𨊙𨣴𨮛",
   "𨮞𨮟𨮠𨮡𨮢𨮣𨮤𨮥𨮦𨮧𨮨𨷛𨷜𨷝𨷗𨷞𨷟𩁙𩑆𩕥𩙉 𩟝𩦕𩦖𩦗𩯔𩯖𩴦鱇䲈𩻈𩻅𩻆𩻇𪅑𪅒𪅓𪅔𪅕𪋞 𠑭𠓕𡅲𢆮𢌏𢥫𢥭𢥮𢥸𢺘𢺙𢺚𣡄𣡜𣡅𣬁𤅘𤅙𤅚 𤓙𤓖𤫚𤫟𤫛𤴃𥗯礶𥜳𥫒𥷡𥽯𦉤𦘎𧅐𧅑𧅒𧕖𧕗𧕘 𧮁𧮂𧰝𧰞𧹃𧾪𨣽" ++
   " 𨯆𨯇𨯙",
   "𨯗 𨯈𨯉𨯊𨯋𨯚 𨯌𨯍𨯎𨯏𨯐𨯑𨮼𨷡𨷢𨷣𩆩𩉎𩕷  𩦬𩦭𩪶𩯥𩻸𩻪𩾍𩻫𪆕𠑮𠓘𡆃𡚣𡤰𡬏𢥹𢥺𢺧𢺨𢺩𢺪𣌙𣡐𣡑𣡒欕𣡨𣡓𣡔𤣢𤫜𥤕𥤖𥩏𥷵𥷶𥷷𦇴𦓌𦘏𧅦𧅧 𧅨𧢤𧮋𧮌𨇺𨯦𨯭𨯮𨯯𨯰𨯾𨷧𨷨𩆳𩇤𩖃𩫬 𩼖  𩼗𪇃𪆬" ++
   "𪋭  𪖴",
   " 𡆊𡆋𡤴𡬔𡿟𢒻𢥿𢦁𢺭𢺮𣡢𣡮 𤅮 𤜗𤫦𤰐𥤙 𦘐𦫲𧅶𧅷𧮕𧮖𨰀𨰁𨰱𨯺𨰜𩁭𩯴𩯵𩴽𩼲𩼳𪋴 𠑳𡤷 𣡱𥸏 𥸎𦘑𧆅𨰔𨰕𨰖𨰗𨰘𨰙𨰚𩇃𩽂𩽃𩽄𩽈𪇻𡚥𡦸𢺲𣀽𣡲𤓧𤓨𥍙𥜺𥸔𦇿𦧀𧆍䖄𧆎 𨰢  𩰄𩰩𩽑𩽦𪈎𪈎 𡆛𡆜" ++
   "𢌖𢦆𢦇",
   "𨰬𨰰𨰨𩙟 𤅾𥸙𨈊𨰶𨷼𩽭𩽮𪛆厵𣡻𦈆𧖟𪈲𨈍𢦋𨰻 𪈽𨰼𨰽"]

end Catalog.Charset
