/-!
This module contains the characters of plane 6 of CNS 11643 in their rows of 94.
-/

namespace Catalog.Charset

def cns6 : Array String :=
  #["乁𠁢㐅𠂈𠃐𠃏𠄞𠄟𠄠𠤎𠤬𠁡𠀄𠀅𠀃㐄丸𠁽𠂍𠆣𠆤𠓛𠔀刃𠚣𠠲㔿𠫔𠫕𡰣𢌬𢍺𠔃𠀇𠀈𠂏𠂜𠃕𠄒𠄓𠄔𠄡𠆨𠆦𠑶𠔁𠔽內𠔾𠘩𠙷𠙸𠚦𠚩𠚬𠠴𠔄𠥻𠨐𠘯𠫗𠬜𠬟𠬚及𠬞𠮞𠮚𡆠𡆡𡗒𡗓𡦹𡬝𡭕𡳿𡿧㠪𢀑𢀓𢀒𢆯𢆱廾𢌭𢍻𢎝𢎚㢧𢎟" ++
   "𢎠𢎜𢒽㣺",
   "𢖪𣁬𣂑𣱴𤕪王𥘅𦉫𦉪𠃠𠀒㐀𠁿𠂠𠂙𠂕𠂞𠃟𠃞𠆯𠆭𠆰𠓟𠕃𠕁𠕈𠕵冬𠘲𠙻𠙹𠚳㓛𠮧𠚲𠚰𠚴包𠣍𠣎北𠤐𠦀𠧓𠨰𠂘𠨯𠨱𠫚𠫙𠬧𠬨𠬡𠬥𠮦𠮢𠮡𠮤叫𠮪𠮥𠮣𠁤𡈿𡉄𡔛𡕓𡖄𡖆𡗕𡚨𡤾𡥀𡯊𡯉𡰦𡴀𡴱𡴼𡴰𡴳𡴲𡴸𢀴𢁓𢁔𢆴𢆲𢌯𢎥" ++
   "𢎧𢎤𢎨𢎩",
   "𢎢𢎣𢎦𢒁𢒀𢖭𢨤𢩥𢩨𢩩𣄼𣄻𣍝𣥄𤆂𤓱𤕫𤜛𤣫𤮺𤯓𤴓𥤢𦫴𨈏𨈐𠔇𩰋𩰊𠀙𠀚𠀘𠁦𠂂𠂨𠃥𠃧𠃤𠄕𠄣𠄤𠅃𠇃𠆼𠆻㐸𠆷𠆹𠇏𠘺𠑺𠑻𠓡𠓠𠔉𠕍𠕋𠕋𠕹𠖱𠘶𠘵𠘷𠘸𠙿𠚀𠚁𦥓𠙾𠛍𠚿𠚾𠛂𠚸𠛁攰𠤱𠤯𠥯𠦂㔺𠦇𠦆𠦍𠦔𠧗𠧔𠧘𠨖𠨔" ++
   "𠨮𠨶𠨷𡿮",
   "𠫠𠫥𠫟𠬫𠬩𠬭𠬯𠮷𠯉𠯁𠯊𠮲𠮬𠮮𡆲𡆨𡆰𡆧壮𡉒𡉊𡕖𡕕𡕟𡕞𡖈多𡗝𡗢𡗡𡗟𡗠𡚯𡚱𡚺𡥅𡥃𡦽𡧈𡧈𡦾𡦿当𡭙𡰩𡰬𡰯𡰭𡰮𡴄𡴂𡴁𡵀𡵊𡴿𡵏𡵁𡵎𡿫𡿬𠂬𢁛𢁣𢁚𢁙𢇜𢇛𢇙𢇠𢇝𠀠𢎰𢎱𢎲𢎶𢑑𢑒𢑐𢒄㣉𢒃𢗃𢖸𢖹𢖲𢦐𢨦𢨩𢩮𣅀" ++
   "𣄾𣅁𣍞𣎻",
   "𣎼𣎹次𣢀㱏𣥅𣦺𣦽𣱖𣱕𣱵𣱷𣲁汎𣲃𣲋𣲄𤆆𤆃𤆋𤕭𤘖𤜨𤣪𤯔𤰃𤴕𤼽𤼾𥐖䂖𥘆𥝍𦈢𦉳𦉭𦉮𦒱𠕎𦘭䏍𦣹𦥒𦬀𦫼𦫺䒒𦫷𦫸芋衣𧰧𨈑𠂮𨑐𨑏𨑍𨙱邔𨙲𨸘𠩄𠀡𠁧𠂯𠂰𠀩𠄗𠄢𠄢𠀥𠄨𠇿𠇙𠇛𠇞𠇲𠇾𠇴𠇝㑅你𠈁𠇜𠑽𠒁𠑾𠑿𠓥𠔏" ++
   "㒵𠔊㒶𠔋",
   "𠕑𠕒𠕐𠖸𠘽𠘾𠘼𠚇𠛗𠛛𠛏𠛠𠡌𠡂𠣔𠤑𠤔𠤕𠤒𠤳𠤵㔷𠥱㔰𠦑𠦓𠦕𠧜𠩂𠩀𥎦𠫦𡊏𠬲叟𠬱𠯵𠯍𠯞𠯕𠯚𠯮𠯬𠯏𠯎吸𠯌𠯳𡇁𡇄𡇆𡆴𡇃𡆸𡆻𡆷𡆼𡆿𡇇𡆾𡉠𡉝𡉶𡉬𡉵𡉛𡉱𡉳𡉡𡉚𡉢𡉲𡉟𡉘𡔞𡕘𡖋𡖊𡗴𡗰𡛒𡛍𡛎𡚼𡛐𡥆𡥇㜾㝍㝑" ++
   "𡧎𡧏𡧌𡧋",
   "寿𡭠𡭟𡭝𡯔𡰺𡰸𡰼𡰶𡴈𡵾𡵞𡵮𡵓𡵰𡵗𡵝𡵣𡵺𡵹𡶓巡𢀝𢁨𢁳𢁴𢁦𢁯𢁵𢁺𢁰𢁭𢁥𢆊𢇭𢇩𢇣𢇯㡳𢇪𢌱𢌱𢌸𦬠𢌵𢌺𢎁𢎀𢎸𢏁𢎺𢒈𢓏𢓊𢓇𢓅𢓈𢓐𢓉𢖻𢖶𢖽忍𢖴𢗁𢗑𢗒𢗌𢗔𢗋𢗎𢗕𢗘𢦕𢦓𢦙𢦖㦾𢪉𢪔𢪑𢪏𢪄𢪗𢪆𢪅𢪌𢻲𢻭𢻯" ++
   "𣃙𣅆𣅇𣅋",
   "𣅐𣅊𣅎𣅌𣅈𣍣𣍡𣍢𣍠𣏃𣏅𣏁𣏐杓𣢂㰞𣢆𣢄𣥌𣥈𣦸𣦿𣧁𣧆𣧅𣧇𣧀𣧃𣫭𣬃𣬢𣬡𣲟𣲐𣲞㳈𣲠𣲔𣲕𣲡㳃㳇𤆚𤆐𤓲𤓳𤕮𤖫𤖩𤘚𤘘𤘛𤝠𤝌𤝂𤜳𤜿𤜾𤜸𤝃𤝆𤜶𤣮𤣵𤣴㽖𤰛㕀𤴫𤴩𤴪𤴮𥀿𥃦𥎧𥎨𥐘𥘈𥝐𥝓𥩖𥩕𦉯𦉿𦒳𦘺𦘸𦘷𦘶𠕔" ++
   "𣍟𦣝𦣼𦣺",
   "𦤳𦬄𦬇𦬈𦬆𦬉芝花𧈞豕𨐋𨑃𨑒𨑘𨑞𨙨𨚍𨚂𨙻𨱘䦽丽𠀬𠀮𡘋𠀭𠁩𠂲𠂶𠂩𠃭𠄙𠅏𠈖𠈃𠈎𠈄𠈇𠈐𠈧𠈨𠈍𠈩𠈏𠈢𠈑𠒅𠒄𠒃𠒊𠒆𠔐𠕘𠕚𠜌𠗄𠗅𠙇𠙉𠙊𠙋𢆻𠚍𠚋𠜇𠜆刻𠛯𠛰𠛭𠛹𠜂𠛧𠛴𠛷𠛱𠡓𠡕㔚𠣚𠣙㔬𠤸𠦙𠦢𠦜𠦚𠦛𠧥𠧣" ++
   "𠧡𠧠𠧢𠧤",
   " 𠧨即𠨓𠩖𠩋𠩊𠩍𠩌㕉𠫪𠫩𠫫𠫬𠬺𠬼𠬹𠬻𠰔𠰎𠰵𠰊𠰿𠰸㕼𠱎𠰗周𠰞𡆶𡇎𡇊𡇋𡇌𡇉𡊴𡊬𡊈𡊆𡊌𡊓𡊊𡊤𡊇𡊥𡊦𡊅𡊣𡊎𡔟𡕣𡖍𡗺𡗻𡘉𡗾𡗿𡘂𡘄𡗽𡘅𡛹𡛷𡛛𡛚𡥑𡥐𡥗𡧢𡧘𡧚𡧜𡬠𡬟𡭩𡯝𡱀𡱁𡱃𡴍𡴌𡶇𡶩𡶒𡶅㞿𡶌𡶢𡶏𡶊" ++
   "㞺𡶍𡿱𢀷",
   "𢂋𢂇𢂂𢆎𢆼𢇸𢇺𢇫𢇹𢇼𢈅𢌛𢌝𢌞𢌱𢌼𢌾𢎄𢏈𢏉𢏓𢏇𢏒𢑕㣇𢒌𢒊𢓕𢓓㣘𢓘𢗐𢗮𢗱𢗻𢗓𢗬𢗍𢘕𢘦𢘎𢘧𢘪𢘀𢘄𢘨𢘈𢘔𢦛㦲𢦡𢦝𢦠𢦞𢦢𢦜𢨲𢨴𢪓𢪖𢪐𢪴𢪵拔𢪶𢫂抱𢪺𢪒𢻻𢼅𢻳𢻾𢻽𤕝𢻺𣁃𣂕𣂔㫄𣅯𣅳𣅜𣅛𣅦𣅴𣅣𣅧𣅠𣅢" ++
   "𣅱𣅲𣅞𣌣",
   "𣌦𣍤肭𣏲𣐁𣏝𣏜𣏛𣏳𣏽𣏘𣏸𣏻𣢃𣢌𣢎𣥉𣥔𣥒𣥎𣥘𣥑𣥕𣥓𣥗𣥐𣥏𣥍𣧒𣧓𣧉𣧔𣫯𡴋𠂱𣬅𣬄𣬮𣬭𣱅𣱛𣱚𣱙𣲝𣲎𣲼𣳝𣲺泍𣳘𣳋𣳙𣳚𣳄𣲸𣲿𣳛𣳁沿𣳅灷𤆱𤆯災𤓷𤓶𤓸𤕐𤕑𤕱𤕰𤖰𤖯𤖮𤖭𤘥𤘬𤘢𤘳𤘴㸫𤜺𤝀𤝨㹡𤝤𤝜𤝗𤝓𤝏" ++
   "𤝑𤝔𤝦狝",
   "㺲𤤍𤤈玥𤣺𤫪𤬪𤮻𤯕𤯗𡶤𠃰𠂵𤰆𤰨𤰢𤰡𢑖𤰣𡇍𤴰𤴴𤿉𤿊𤿈𥁄𥁄𥃳𥃳𥃸𥃼𥃶𥃻𥃷𥄀𥄂直𥐝𥐤𥘍䄩𥝢𥤰𥤫𥤪䆒𥤭𥫚𥸨𥾆𦉷𦉼𦍐𦍎𦏲𦒲𦓎𦓏𦓥𣐇𦔵𦔱𦘓𦘫𦘬𦙅𦙠𦙁𦙘𦙇𦙛𦙐育𦙟𦙊𦙖𦙃𦙄𦙑𦣽𦤴𦤵𦥔𦥕𦨌𦨋𦨊𦫹𦬵𦬤" ++
   "𦬓𦬜𦭩𦬥",
   "𦬡芽苦若𧈠𧖩𧖨𧗞𧘉𧘊𧘋𧟣𧠇𧢲𧢳𧥝𧹘𧺆𧺇𧾹𧾸𨐌𨑄𨑦𨒀𨑵𨑭𨑾𨑧𨒁𨑷𨚨𨚢𨚥𨚛𨱗𨸏𨸲𨸬𨸳𩇧𠁮𠂷𠃶𠃲𠃳𠔗𠄰𠅔𠅓𠉒𠈽𠈼𠈴𠈳𠉔𠈯㑘𠉕𠈿𠈷𠉖𠉡𠉘侻𠈻𠈲𠈮𠈾𠀻𠒌𠒍𠔓𠔖𠔒𠕛𠖊𠗗𠗎𠙐𠙑𠙏𠚎𠚏𠛲剆𠜨𠜚𠜥𠜝" ++
   "𠜔𠜠𠜟𠜛",
   "𠜗𠜕𠜜𠜓勇𠡠㔜𠡦𠣣𠣞𠣠𠣡𠤚𠤛𠤘𠤜𠤙𠥂𠥀𠤾𠥄𠥴𠥃卑𠧲𠨛𠨙𠨞卽𠩞𠩦𠩝𠩚𠩟𠩠𠩛𠩜𠩙𠫰𠫱𠭃𠭀𠭂𠭁𠬿𠱗𠱩𠱯𠲫𠱱𠲓𠱖𠲐𠱭𠱬𠱰𠱦𠱧𡇗𡆵𡇛𡇘𡇕𡇔𡊺𡊷𡊾𡊹㘷𡋠𡋝𡋞𤤘𡋘𡊽𡋛𡔝𡔥𡜡𡜌𡜩𡜭𡜛𡜎𡜟𡜄𡜜𡜅𡜆𡜠" ++
   "𡜍𡜪𡜣𡜑",
   "𡥜𡥦𡥛𡥏𡥞𡥝𡧱𡧪𡧴𡧫𡧰𡧺𡧻𡬨𡬬𡭫𡬪𡭪𡭯𡯛𡯠𤿑𡯣𡯥𡯧𡱍𡱕𡱔𡱓𡱒𡱎𡱠𢇀𡴏𡴑𡴓𡷆𡶳𡷇𡷒𡶸𡶬𡶮𡷏𡷅𡷤𡷌𡶫𡷉𡶹𡿻𡿸𡿷𡿹𢀠𢀻𢀹𢂞𢂚𢂪𢂫𢂯𢂖𢂩𢂦𢂑㡃𢂮𢂟𢂬𢂠𢆒𢆑𢆿𢈗𢈊𢈌𢍊𢍆𢌴𢍅𢍃𢍄舁𢎇𢎆𢎊𢏚𢏘㢴" ++
   "𠔘𠄴𢏖𢏔",
   "𢑔𢑙𢑚𢑗㣠𢓝𢓩𢓠𢘅𢘒𢘓𢘇𢘖𢘣𢘂㤺𢙊𢘶𢙀𢙖𢙃悁𢙋𢙆𢘾𢙉𢦧𢦶𢦦𢦨𢦬𢦩𢦫𢨸𢨷𢨹𢩁𢨾𢫀𢪻𢪿𢪽𢫾𢬞𢫮𢫼捐𢫹𢬆𢫤𢫩𢫥𢬃𢫽𢭉𢺾𢼊𥘦𢼘𢼍𢼏𢼎𢼠𣁱𣂙𣃢𣃟𣃞𣅸𣅹㫤𣅼𣅽𣆄𣆋𣆊冒𣆉𣌬𣌩𣍬栄𣐉𣐈𣐌𣐍𣐐㰦𣢟𣢘" ++
   "𣢢𣢚𣧕𣧢",
   "𣧰𣧪𣧫𣧭𣧨𣧠𣪅𣪆𣫰𡹆𣭅𣬸𣬾𣭂𣭀𣱇𣱜𣱞𣲴𣳂𣴔𣳥𣴕𣴑洖𣳮𣳧𣳵𣳴𣳨𣴁𣳯𣳱派𤇛𤆿𤇚𤇇𤇝炭𤇫𤇡𤇁𤆽𤔇𤓽𤔁𤔊𤔃𤕲𤕴𤕵𤖲𤖱𤖴𤙌𤙂𤙀𤙉𤘼𤙍𤙊𤘻𤝡𤝴𤜵𤝿𤝺𤞈𤝼㹯𤝰𤤏𤤨𤤓𤤪𤫭𤫯𤬮𤯁𤯝𠭇𤰭𤰫𤰵𤰯𤰱𤰴𤰶𤰰" ++
   "𤴺𤴹𤴷𤵋",
   "𤵔𤵍𤵑𤵇𤼧𤽐𤽍𤽎𤽔𤿒𤿎𥁋𥁉𥄅𥄏𥄙𥄙𥄆𥄌𥄩𥄄𥄈𥄥䀜𥄃𥄧𥄐𥄊𥃲𦭝𥎪𥎫𥎩𥑁𥐺𥐼𥐫𥑉𥘕䄀𥘖祖𥘱𣱊𥜼𥝼𥝭𥝪𥝣𥝫𥝻𥝤𥝺𥝩𥝯𥤷𥤵𥤼𥤶𥤽𥤾𥫡𥫠𥸭𥸫𥾍𥾒䊶𥾎𥾆𥾑𥾖𦉻𦉸𦊁𦊖𦊣𦊕𦊗𦍔𦍒𦏵𦐀𦏻𦏴𦏶𦓨𦓪𦘾𦘽" ++
   "𦘻𦚀䏤𦚈",
   "𦚁𦚂𦛎𦚃𦙷𦙹𦙳𦙭𦙰𦚍𦙵𦚌𦙪𦚑𦚉𦚎𡋜𦣿𦥙𦧇𦨒𦨔𦨓𦫋𦭂䒭𦬽苿𦭀𦭄𦭢𦭃𦬿𦭅𦬼𦬼𦭆𦭇虐𧆞𧆝𧈬𧈩𧈯𧈮𧈰𧗡𧗢𧘎𧘙𧘒𧢴𧯚𧴦𧹙𧹚𧺈𧿀𧾺𨊠𠣞𨊢𨒆迬𨒝𨒈𨒏𨒎𨒛𨛁𨛃𨛄𨚖𨛇𨛆𨚿䣃𨤏𨹕𨹂𨹆𨹋𨹃𨹓𨹈𨹉𨹊𨹎𤯞𠚑" ++
   "𩑋𩚀𩚁𩚃",
   "𠊊𩚂𢍂𠤢𠁰𠁱𠂼𡴘𠂾𠂺𠃸𠄷𠄵𠫼𠅖𠅙𠅞𠉭𠊑𠊒𠉨𠉦𠉳㑧𠊖𠊋𠊌𠒖𠓮𠔜𠔚𠔙𠔛𠕝𠕞冤𠗜𠗢𠙒𠚒𠜰𠝒𠝂𠝁𠝅𠜷𠝀𠜿𠜽𠜸𠜺𠝉𠡫𠡸𠡹勉𠡬𠣩𠣦𠣥𠣪𠣧𠣨𠤟𠥋𠥊𠥓𠥶𠦣𠦤𠧶𠧳𠧹𠧷𠧼𠨝𠩭𠩱𠩬𠩮𠩰𠩯𠩧𠩨𠫺𠫹𠭎叞𠭍𠭏" ++
   "𠭊𠭌㖖唐",
   "𠳮𠲲𠳀𠳁𠳴𠳈𠳅𠳆𠲭𡇢𡇪𡇣𡇡𡋷𡌁𡌒𡋶𡋱𡌟𡋮城𡋳𡌕𡌖𡌗𡋸𡌙𡋲𡋴𡋵𡌓𡌆𡔦𡔤𡕚𢻈𡖗𡖕𡖚𡘟𠫻𡘩𡘠姬娛𡝌𡜰𡜸𡜽𡝑𡝏𡝊𡜴𡜶娰𡥪𡥨𡨜𡨎𡨞㝙𡨉𡨈𡨓𡨁𡨏𡨔𡨆𡨇宲将㝶𡭹𡯪𡯭𡯩𡯮𡱨𡱤𡱧𡱲𡱢𡱴𡱹𡴙𡴗𡴕𡴖𡷦𦊤" ++
   "𡷮㟒𡷟𡷤",
   "𡷚𡷪𡷭𡷣𡷩𡿽𠙗𢀡𢃆𢂸𢃋帨𢂽𢂵𢂻𢂿𢂾𢂲𢃁𢃂𢆙𢇆𢈬𢈭𢈥𢈞𢈟𢈣𢍐𢍎𢍍𢍒𢏩𢏬𢏨𢑘𢑜𢑛𢒏𣥲𢓶𢔀𢓼𢓸𢓪𢓾𢓷𢓽𢙰𢙢𢙄㤠𢙍𢙌𢘿𢙦𢘵㤩𢘴𢚍𢚄㤸𢚆𢚉𢚇𢚃𢙵𢙹𢚯𢚰𢦷𢦻𢦹𢩆𢩇𢩅𢫪𢫶𢭨𢬹挽𢬽𢬻𢭍𢬰𢭊𢬾𢭀𢭌𢭇" ++
   "𢬸𢭒𢬺𢭓",
   "𢻄𢻁𢼜𢼝𢼪𢼞𢼯𢼢𢼮𢼥㪉㪰𣁊𣁋𣁶㪿𣃨𣃯𣃩㫅𣃪書㫪𣆛𣆞𣆓𣆧𣆜𣆠𣆚𣆫𣆾𣆩𣌭𣍮𣑄𣐽𣐺𣑨𣐼𣑪枅𣐸𣑥𣐹𣑭𣐶𣑭𣐾𣑾𣐷𣢙𣢩𣢭𣢧𣢨𣥦𣥩𣥭𣥧𣥫𣥪𣧮𣨁𣨃𣧴𣧻㰷𣧶𣧼𣫴𣬈𣬊𣬉𣭭𣭢𣭁𣭞𣭜𣳳𣴦㳤𣴹浸𣵬𣴫𣴮𣴻𣵞𣷻" ++
   "𣴧𣴤𣵩𣴰",
   "涅𣵢𣴸𣴵𣴪𣴬𣵨𣴱𣴯𣴭𣴺𣴶浩𣴡𣴼𣴠𣵤𣴾㳨𤇷𤈒𤇱𤇵𤈢𤇲𤇟𤈕𤈖𤕺𤕶𤖾㸠𤖽𤘉𤘈𤙗𤞣𤞿𤞸𤞯𤞜𤞥𤝲𤝵𤞝𤞙𤞹𤥎𤤹𤤻𤤵𤤼𤥕𤫰𤫳𤫴𤬻𤬼𤬺𤬶𤰇𠳫𤱕𤱐𤱏𤱒𤱖𠂽𤰲𤵣𤵫𤵦𤵗𤵝㾆𤵭𤵡𤵩𤵚𤵜𤵢𤼪𤼩𤽘𤽚𤿗𤿛𤿜𤿝𤿘" ++
   "𥁔𥁛𥁜𥁓",
   "𥁏𥁖𥁐𥁚𥁫𥄶𥅓𥄺𥄼𥄾𥅉𥅀真真𥍤𥍥𥎵𥎶𥎲𥑈𥑊𥑲𥑩𥑚𥑌𥘬𥘰𥙋𥙉𥙂𥙄𥙊𥙏𥞒秫𥞗𥞀𥞂𥞆𥥓𥥞𥥒𥥛𥥎𥩭𥩮𥫺𥫶𥫻𥸳𥸽𥸷𥸾𥸵𥾚𥾫𥾦𥾰𥾙𥾠𥾞𥾨𥾡𥾪𥾭𥾻𥾜𥾥𠂳𦈧𦊍𦊎𦊏𦊒䍖𦊑𦊭𦍗𦍘𦍞𦍝𦍜𦍛䍧𦐊𦐃𦐎𦒸𦕍𦔿" ++
   "𦕇𦕋𦕊𦔽",
   "耸𦕁𦕌肁𦙢𦙩𦙡䏑𦚪𦚦𦚬𦚽𦚻𦚤𦚺𦚚䏫𦚡𦛁𦣠𦤊𦤃𦤆𦤹𦤺𦤶𦥛𦥟𦥞𦥧𦥡𦥢𦥝𦧊𦧌𦧎𦨘𦨝𦨟𦨠𦨗𦨕𦬟𦬧𦬦𡸐𦮋𦮮𦮊茝𦮒𦮉𦮇䒶𦮏𦮄𦮃𦮌𦮓𦮍𦮘𦭽𦭾𦯒𦮀𦮙𧆬𧉐𧉕𧉂𧈿𧈼䖣𧉌𧉉𧉗𧉘𧉏𧉜𧉇蚩𧖫䘐𧖯𧖭𧗨𧗧𧘰𧘦𧘯" ++
   "𧘨𧘫𧘝𧘭",
   "𧘠𧘪𧘬𧘵𧘡𧘣𧘤𧘶𧘷𧟩𧢺𧢸𧥦𧥭𧥪𧥨𧥩𧥫𧥡𧯜𧯛𧰭𧰬𧲢𧴫𧴲起𧺔𧺒𧺐𧿉𧿄𧿁𧿃𧿍𨈔𨊧𨊯𨊪𨐍𨑔𨑛𨑡𨒮𨒳𨓀𨓄𨒿𨓋𨒭𨒧𨒤𨒽𨒯𨒲𨒥𨛧𨛠𨛎𨛞𨛕𨛟𨛙𨟲𨤣𨥀䤛𨤾䦇𨳏𠭔𨹛𨹘𨹢𨹟𨹧𨹣𨹞𨹠𨾅𨾆𨾇𩇨𩇦𩙱𩚅飢𩚆𩠐𠧸" ++
   "𠂿𠭡𠃾𠃼",
   "𠄹𠅡𠅠𠋢𠋪𠋣𠊴𠊮𠊾𠊸𠊨𠊪𠊩𠊳𠋕𠊭𠊹𠊻𠊱𠋂偺𠋫𠊺𠋒𠋔𠓱𠔝𠔜𠕢𠖌𠗦𠗧𠙚𠙘𠙙𠚖𠚗𠝡𠝧𠝱𠝥𠝽𠝾𠡽𠢄𠡼𠡾𠡿𠢀𠣯𠣴𠤞𠥎𠧻𠧺𠧽卿卿𠩹𠩼𠩽𠪄𠩻𠩸㕗𠭞𠭚𠭜𠭙𠭕𠭣𠭖𠭟𠭠𠭛𠵊𠵥𠶳𠴬𠵷𠴽𠵒𠵡𠴪𠴾𠴴𠴩𠶲𠶭𠵀" ++
   "𠵓啣𠴿𠵁",
   "𠵲𡇶𡇵𡇴𡇲𡇹𡌧𡍔𡍕𡌮堍埴𡌬𡌸𡌹𡌱𡍏𡍳𡌰𡌫𡍑𡔬𡕛𡕜𡕨𡕬𡕫𡕩𡖟𡘸𡘼𡘺𡘵㚝𡘹𡘶𡘻𡝠𡝡𡝣𡝤𡞔𡞓𡝞𡝨𡝪𡝥婦𡞐𡝟𡝲姘𡨼𡨧𡨤𡨦𡨥㝟𡨨𡨶𡬱𡬰𡬴𡮁𡭽𡮂𡮀㝹𠋓𡯲𡱦𡲌𡱻𡲃㞘𡲎𡱺𡲒𡲑𡲂𡴛𡴜𡸧𡸡㟜崫𡹃㟟𡸘𡹻" ++
   "𡸚𡹋𡹊𡹍",
   "𡹏𡸙𡸵𡸓𡹒𡸔𡸞𡸬𡸠𡸢𡸒𡸟𢀀𢀣𢁀𢁃𢃤𢃛𢃪𢃝𢃌𢃙𢃨𢃶𢃣𢃓𢃚𢃖𢃧𢈺𢈿𢉀𢉈𢉙𢈷𢉄庳庰𢉕𢈹𢍔𢍕𢍖𢍗𢍘𢍙𢎍𢏲𢏸𢏵𢏶𢏼𢏾𢏱𢏽𢑞𢒖𢒗𢒜𢒛𢒕彫𢔚𢔉𢔄𢔎𢔜𢔘𢔍𢔐𢔌𢔃𢙻𢚦𢙷𢚈𢙴𢛚𢙶𢙸𢚊𢚏𢙽𢚐𢛭𢛙𢛐𢜚𢛗𢛢" ++
   "𢛡𢛅𢛠𢛊",
   "𢜥𢛌戛𢧆𢧁𢩍𢭋𢭤𢮕𢮙掃𢮔𢮢𢮮𢮞𢮧𢮆㧽𢮤𢮑𢮓捨𢮈𢻍𢻊𢼿𢽀𢽆𢽁𢽅𢽘𢼻𢽈𣁎𣁒𣁏𣁻𣁺𣂠𣂟𣃻𣃷𣆸𣆹𣆻𣆷㫴𣆺㫯𣇚𣆵𣆿𣆼𣇀冕望𣍵𣍹𣍶𣐵𣑀𣓀𣒁𣒭𣒯𣒬𣒏𣒨𣒪𣒩𣒈𣑿𣒀𣒼𣢮𣢻𣢽㰱𣥸𣥴𣨌𣨑𣨈𣨆𣨐𣪏𣪐𣪍𣪎𣪖" ++
   "𣪕𣬋𣬌𣭼",
   "𣭳𣭵𣭶𣭽𣭸𣭱𣱋𣱎𣴳𣴲㴃𣶑𣷧𣷩𣶢𣶔𣶇𣶣𣷝𣵻𣶃𣶁𣷟𣵼𣷤𣷢𣶓𣵽𣶿𣶛𣶎𣶟㴉𣶌𣵿𣶜𣶄𣵂𣷦𤉑𤉊𤉤𤈥𤈯𤈮𤈫𤈨𤈲𤈭𤈱𤈹𤈬𤉡𤔑𤔐𤔒𤕓𤕕𤕻𤖁𤕽𤕼𤗂𤗅牐𤗄𤘈𤙫𤙨㸾𤙜𤙝𤙪犀𤱶𤝶㹷𤟄𤟋𤟈𤟔𤟕𤟉𤟗㹻𤥸𤥚𤥛𤥜𤥖" ++
   "𤥘𤥱𦧔𤭀",
   "㼛𤬿𤭃𤭁𤯢𤯠𤯣𤱦𤱳𤱬𤱱𤱪𤱭𤱮𤱫𤶌𤵷瘐𤵿𤶉𤵺𤶅𤵸𤶊𤶆𤼬𤽧𤽛𤿥𤿡𥁡𥁩𥁪𥅥𥅭𥅣𥆆𥅜𥅢睊𥅹𥅩𥅰𥅶𥅝𥆇𥅮𥅱𥅼𥅳𥅛𥅫𥎿𥏁𥎽𥏉𥎼𥏂𥏀𥒒𥒩𥒏𥑶𥑻𥑵𥒤𥙤𥜽𥞯䄺䄯𥞝𥞙𥞱𥥣𥥢𥥤𥥩䆠𥩵𥩳𥩱𥩴𥬌𥬖䇥𥬑𥬟𥬚𥬍" ++
   "𥬛𥬓𥹎𥹕",
   "𥹐䉽𥿒𥿓𥿑𥿱𥿜𥿈𥿌𥿐𥿏𥿟𦈫𦈮𦈭𦊝𦊞𦊟𦊩𦊠𦊘𦊡𦊫𦊯𦍮𦍟𦍚䍭𦍥𦍨𦍲𦐗𦐖𦐘𦐙𦐚𦐢𦐛𦐜𦒾𦓮𦕚𦕐𦕘𦕔𦕗𦕖𦘕𦚛𦚓𦚒𦙲𦚘𦚙𦛟䏸𦛕腘𦛔𦛳𦛴𦛧𦛡𦛦𦛫𦛬𠋛䑐𦤍𦤌𡬯𦥨𦥥𦥫𦥩𦧑𦧓𦨧𦨨䑨䑧𦨤𦫗𦯊𦯇菧𦯘𦯡𦯆𦯸" ++
   "𦯃𦯴𦰗𦯪",
   "𦯋𦮆𦯄𦯙𦰙𦯂𦯢䓏𦯞𦯭茣䓍𦰝𦯝𦯛𦯨𦯩𦮿𦯠𦯑𦯜𦯎𦰞𦯌𦯲𦯳著菌菜菊𧆫𧆪𧆧𧆩𧊈𧉵𧉠𧉬𧉳䖫𧉮𧉴𧉶𧉨𧉷𧊆𧗪𧙑𧙐𧙘𧙍𧙏𧙎𧙜𧙒𧙄𧙊𧙋𧟪𧠐𧠑𧣍𧢿𧣄𧣐𧣎𧣀𧣂𧣏𧣉𧢻𧦗𧦒𧥯𧥾𧦚䛁𧦆𧥳訤𧥷𧦏𧥰𧦁𧦂𧦙𧥽𧥿𧥻𧦇" ++
   "𧮲𧰯𧰴𧰮",
   "𧰲䝇𧲪䝗𧲩𧴸𧴶𧴷𧵇𧴳𧴹𧴵𧵄𧺥𧺦𧺞𧿣𧿟𧿓𧿱𧿤𧿠𧿖跃𧿦𧿘𧿞𧿛𧿜𨈛𨈟𨈝𨈜𨈞𨈠𨈡䡎𨊶𨊼𨋆𨋇𨊺𨊾𨊽𨊵𨊴𨐏𨑢𨓫𨓙𨓤𨓗𨓘𨓖𨓎𨓝𨓧𨓒𨓅𨓉𨓛𨚒𨚊𨚋𨚉𨜈𨜃𨜆𨜅𨛵𨜋𨛻𨟼𨠁𨠂𨟺𨠈𨟷𨠀𨟿𨠆𨟶𨟻𨠊𨤥𨥃𨥄𨱤𨱢𨱞" ++
   "𨱛𨳖𠁲𠃂",
   "𨹷𨺂𨹼𨹽𨺆𨺁𨺄𨹶𨺃𨹿𨹾𨾈𨾍𨾋𨾑𨾏𩁼𩁹𩁺𩇪𩑌𩖙𠋑𩚋𩚍𩚊𩚎𩠑𢉖麻𠁴𠃃𠃄𠄛𠅟𠅪𠅩𠅫𠌌𠋶𠋭𠌩𠋾𠋱𠌗𠋿𠋮𠋽𠌜𠋼𠌀𠌠㑷𠋹𠍧𠌈𠒞𠓳𠔥𠔧𠔟𠕥𠕣𠖔𠖗𠗱𠙟𠙢凲𠙠割𠞌𠞂𠞐𠞋𠞍𠞁𠞝𠢎𠢏𠢒𠤣𠥒博𠨀𠨁𠨂𠨟𠪌𠪉" ++
   "𠪋𠪈𠪍𠪏",
   "𦎅𠬀𠬅𠬁𠭨𠭮𠭧𠭵営善𠷗善𠁈𠷔𠷘喙喫𠶺喳𠷛𠶿𠸵𠶼𠷙㗄𠷝𠸀𠷕𠸰𠶽𠷜𡇽𡇾𡈇𤔗𡍯𡍩𡍰𡍧𡎩𡎕𡎐𡍬𡎗𡍱㙒𡍴𡍭𡎎𡔯𪌛𡖩𡙎奢𡙚𡙈𡙕𡙌𡙉𡙏𡙊𡟖𡞠𡞩㛮𡞝𡟔𡞤𡞨𡞦𡟦𡥽𡥷𡥺𡩁𡩉𡩙𡩅𡩈𡩀𡮎𡮕𡮐𡯷𡯸𡯶𡯻𡲞𡲝𡲙" ++
   "屠𡲣𡲩𡲘",
   "𡲠𡲖𡲔𡲕𡲟𡲡𡴡𡴝𡴟𡹭嵃𡺚𡺒𡹺𡹽𡺡𡺝𡺙𡹫𡹮𡷦𢁅巽𢃻𢃫𢃲𢃹帽𢃸𢃭𢄁𢃷𢄆𢆛𢇊㡫廃𢉫𢉬𢉴𢉧𢉛𢉠𢉶𢉣𢉡𢌨𢍛𢍞𢍠𢍝𢍜𢏴𢐀𢐈𢐇𢐁𢐅𢑤𢑣𢒞𢒠𢒡𢒟𢔦𢔭𢔨𢔝𢛬𢛣𢛫𢜖𢛈𦘛𢛩𢛤𢜤𢛑㥁𢛝𢛂𢛋𢛇𢛧㥐𢛪𢝋惇𢝠𢝽" ++
   "𢜾𢛔𢝒𢝎",
   "𢜼𢜲𢜰𢜣𢧊𢧋𢧉𢧈𢧍𢮘𢮠𢮟𢮜𢮣𢮗𢯱𢯱𢰉𢰃𢯪𢱅𢯭𢰅𢰚𢰕𢰁𢯬𢰎𢰗𢱂𢰒𢰐𢯯𢯿𢰀𢰌𢰏𢰄𢰈𢰔𢱃揤𢰛𢰑𢰓𢻏𢻎𢽯𢽮𢽺𢽰𢽤𢽞𢽬敬𢽛𢽡𢽥𣁿𣂀𣁼𣂧𣂦𣂡㫀𣂨𣂣𣂢𣂭𣂥𣄁𣃿𣃼𣄀𣄵𣇮𣇯𣇶𣇨𣇪𣇣𣈟㫼𣇤𣇺𣇱𣇻最𣌽𣌼" ++
   "㑹𣍸𣍷䐋",
   "𣓑𣓇𣓟𣓐𣓠𣓖𣓘𣔖𣔎𣓙𣔏𣔑𣓍𣒉𣓎𣔔𣓚𣔒𣓓𣓂𣓡𣓩𣓪𣓞𣔕𣣙𣣖𣣍𣣐𣣓𣢧𣦂𣦅𣥿𣥽𣦁𣦃𣦄𨒠𣨨𣨏𣨗𣨚𣨥𣪍𣪛𣪙𣮒𣮌𣮕𣮍𣮣𣮓𣮑𣷛𣶙𣶚𣸈𣹌𣸍𣸁𣹎𣸂𣹍𣸡𣷼湮𣶊港𣶕𣸑𣸒𣹆𣸜𣹉𣸌㴞𣸓𣸖𣷽𣸏𣸟𤈰𤉮𤉫𤊛𤉻𤉣𤊗𤉭" ++
   "𤊜𤊘𤉯𤉧",
   "𤉩𤔕𤕣𤖆𤖊𤖇𤖈𤖅𤖉𤗊𤗇𤗋𤗌𤗉𤘍𤚃𤚄𤙸𤚂𤙳𤙹𤚌𤟐𤟏𤟒𤟙𤟌𤟫𤟽𤟬𤟨𤟸𤟺𤠔㺅𤟡𤟻𤣧瑇𤦥𤦑𤦦𤥼𤦒𤦢𤦠𤫼𤫾𤭗𤭓𤭘𤯧𤲎異𤲃𤲋𤲄㾗𤶢𤶷𤶩𤶥𤶟𤶪𤶗𤶡𤶞𤶫𤶙𤶣𤼰𤼲𤼯𤽰𤽬𤽯𤿨𤿮𤿪𥁭𥁶𥁰𥁱𥁬𥇫𥆵𥆖𥆐𥆍䀹" ++
   "𥆢𥆰𥆒𥆠",
   "𥆓𥇃𥆎𥆶𥆝𥆕𥆳𥆤𥍰𥏔䂓𥏏𠅰𥒔硡𥓀𥒴𥓁䂲𥒽𥒯𥙷𥙸𥙫𥙭𥙮𥙲𥙯𥙱𣂫𥚌𥜿𥞶𥞷稆𥞻𥞸𠞜𥞹稁𥦋𥥺𥦄𥦈𥦑𥥹𥦎𥦀𥦂𥥼䆤𥪄𥩿䇲𥬻𥭱𥬽𥬰䇱𥬾𥬸𥹞𥹤䊁𥹝𥹭𥹏𥹢𥹟𥿬𥿲𥿴𥿷𥿶𦀇𥿭𥿪𥿰𥿸𥿳䋜𦈨𦈱𦈯𦊶𦊮𦊪𦊿𦋌𦋇" ++
   "𦲃𦎀𦍻𦍿",
   "𦍽𦎃羕𦑆𦐭𦐥𦐦𦐬𦐷𦐱𦐳𦐲𦐧𦐪𦐮𦐯𦓀𦕱𦕡𦕢𦕦𦘘𦛅𦛃𦛄𦛂𦚮𦜐𦜈𦜟𦜺𦜻𦜶𦜌𦜆𦜪𦝗𦝐𦜠脾𦜬𦜡𦜋𦜙𦜵𦜘𦜏𦜓𦝕𦜹𦜚䐌𦜗𦣤𦣩𤖋𦤐𦤒𦤿𦥮𤔘舄𦧖𦧕𦧗𠬂䑭𦨱𦨰𦨺𦮅𦭫𦱈𦱋𦰷𦱻𦱬𦲅𦱥𦰶𦲆𦰴𦱨𦱚𦱘𦱲𦱪𦯓𦰼𦰳" ++
   "𦰻𦱍𦱏𦱼",
   "𦲰𦱛𦱕𦱤𦱫𦱓䓦𦱗𦱞𦱭𦰵𦱩𦱙𦱦𦱐𦱑𦱜𦵝𦲇𦱸𦱉𦱎𦯱𦱳𦲈𦯏𦰶𧆱𧆳𧊜𧊤𧊐𧊸𧊠𧊝𧊨𧊩蜎𧊱𧊓𧊛𧊢𧊡𧊰𧊧𧖳衉𧖴𧗱𧗭𧗬𧙨𧙵𧙪𧙢𧙧𧙠𧙷𧙟𧙹𧠣𧠡𧠜覙𧠟𧠞𧣖𧣓𧣙𧣗𧣔𧣜𧣘𧦣䛑𧦾𧦩𧦡𧦠𧦫𧦢𧦺𧧂𧦜𧦻𧦪𧦬𧦥𧧁䜬" ++
   "𧯢𧰶𧰽𧰺",
   "𢑡𧱈𧰼𧲷𧲬𧲳𧲶𧲲䝮𧵝𧵉𧵎𧵏𧵍𧵜𧹝𧺻𧻎𧺿𧺺𧻃䟥𨀆𧿸𧿾𨀓𧿶䟦𨈴𨈭𨈪𨈵𨈬𨋔𨋚𨋓𨋒𨋎𨋏䢟𨓽𨔋𨓾𨓸𨓷𨔗𨓺𨓹𨔀𨓵𨓱𨔃𨔅𨔜𨚬𨚚𨚭𨚠𨜛𨜥𨜤𨜦𨜧𨜨𨜪𨜚𨜮𨜕𨠕𨠔𨠗𨠘𨠏𨠓𨠋𨠢𡍺𨤦鈟𨥑𨥍𨥎𨥊𨥋𨥌𨥐𨥢𨥏𨥒𨱨" ++
   "𨱩𨳥𨳰𨳡",
   "𨳢䧦𨺥𨺩𨺤𨺯𨺬𨺮𨺪𨾕𨾙𨾓𨾝𨾘𨾜𨾗䨍𩂉𩂇𩇗𩇭𩇱𩇰𩈅𩈃𩈄𩉟𩑗𩖜𩖡𩖚𩚏𩚓𩚞𩚣𩚘𩚙𩚕𩡮𩡪𩫴𩫷𩱹𩾏𩾑𪀋𪔂𠂄𠄄𠆀𠌯𠌿𠌻𠍢𠍄𠌳𠍟𠌫備𠌹𠌶𠍈𠌵𠍬𠍘𠌺𠒨𠓴𠔩𠖚𠘀𠞻𠞽𠞷𠞲㓸𠞨𠞫𠞦𠞼𠢗𠢖𠣸匓𠥑㔳𠦵𠦴𠦶㔼" ++
   "𠦷𠨅𠨣𠪕",
   "𠪘㕏𠪔𠪓𠬇𠭳𠭱𠭲𠭸𠹟𠹪𠹧𠹫𠹩𠺎𠹉𠺀㗜𠹄𠺏𠹅嘆𠹏𠹣𠸶𠹈𠹜𠺓𠹡𠹠𠹎𠹞𠸿𠺤嗠𠹨𡈋𡈑𡈍𡈎𡏂報𡎰𡏃𡏈𡍥𡏗𡎽𡎸𡎶𡏇𡎼𡎱𡎯壷𡔵𡔰𡕝𠭶𡕯𡖰夢𡖴𡙜𡙝𡠈𡟮𡠋𡟲𡟽𡟱𡠐㛼𡠔𡦋𡦌𡦅𡩺𡩬𡩠𡩧𡩦𡩪𡩟𡩭𡩨𡩤𡬺𡬻𡬹" ++
   "𡰂𡰄𡰃𡲴",
   "𡲳𡲻𡲬𡲶𡲱𡲯𡲵𡲾𡲲𡴤𡺶𡺹𡺬𡺰𡻗𡺻𡻾𡻋嵫㟵𡺳𡺾𡻍𡺼𡺺𡻇𢄖𢄛𢄗𢄕𢆟廊𢊂𢊃𢊎𢉪𢊉𢊔𢊆𢊐𢍢𢎐𢐌𢐏㣃𢒥𢒧𢒦𢒤𢔵𢔸𢔶𢕃𢕇𢔷𢝃𢞢𢝑𢝲𢝭𢜯𢝔𢝮𢝕𢜷𢝏𢝐愹𢞞慎𢞳𢞧㥱𢟹𢞑慌𢞶𢟝𢞙𢧟𢧕𤟵𢰨𢱀𢱱𢲘𢲕𢱥𢱸𢱿" ++
   "𢱠𢱼𢲖𢱪",
   "𢱹𢱳𢱲𢱻𢱰𢻕𢻗𢾏𢾉𢾞𢾇𢾠𢾍𢾈𢽿𢾌𢾓𣁙𩖰𣂱𥇴𣂯𣂲𣄈𣄊𣄶𣄷暑㬁𣈶𣈩𣉊𣈦𣈨𣈤𣈪𣉈𣍄𣎄𣎌𣓄𣓜𣖇𣕓𣕿𣔱𣕑𣕋𣕒𣖀𣖥𣖁𣕃𣔴𣔶𣔲𣕈𣕉𣔼𣕍𣕊椔𣖊𣕆𣔾𣖃𣕐𣖴𣣰𣣤𣣣𣣥𣣦𣣧𣣡𣣯𣣨𣣝𣤃𣦈𣨦𣨖𣨻𣨯𣨹𣨴殟𣨵𣨱𣨸" ++
   "𠮁𣪪𣪣𣪤",
   "𣪠𣪡𣪩𣪥𣮯𣮱𣮫𣮮𣮰𣮳𣮬𣮩𣮲𣮨𣮴𣯂𣱏𣱦𣸞𣸕𣸐𣹿𣹾𣹠𣻌𣺲𣹢𣺍𣺎𣹷𣹼𣺏𣹝𣹭𣹣𣺯𣺐𣹽𣹺𣸆滋𣹨𣺴𣹸𣺱滗滇㵁𤋨𤋩𤋀㷗𤋪𤊷𤊺𤊵𤉣𤊴𤊼𤋆𤊸𤊽𤋂𤍍𤋰𤋇𤋁𤋃𤋱𤋬㷢𤔜𤔠𤕘𤕥𤕤𤖌𤖍𤗙𤗠𤘐𤚔𤚒𤚖𤚕𤚿𤚠㹅𤟴𤟶" ++
   "𤟜猽𤠖𤠕",
   "𤠜𤠏𤠬𤠔𤠥𤠗𤠒𤠞𤦀𤦨𤦯𤧖𤧢𤦴𤦳𤦰𤦲𤦡𤭠𤭦𤭡𤭎𤭝𤭣𤯦𤯯𤯬𤲘𤲧𤲔𤲕𤲑𤲝𤲙𤲛𤲜𤴝𤴜𤷐𤷠𤷋𤷛𤷚𤷂𤷓𤷥𤽽𤽻𤿿㿲𤿹𥁷𥁼𥁸𥁻𥁺𥇒𥇋𥇉𥇎𥇤𥇊𥇐𢾥䁉𥇙𥇮𥇝𥈀𥇡𥏞𥏢𥏚𥓎碌𥓏𥓚𥓑𥓔𥓭𥓋𥓕𥓱𥚜𥚈𥝁𥟐𥟷𥟏𥟑" ++
   "𥟛𥟞𥟸𥟜",
   "𥟙𥦠𥦲𥦡𥦪𥦩䆩𥦦𥦜𥦵𥦧𥪎𥪐𥪑𥮅𥭛𥭰𥭤𥭧𥭣𥭷𥭨𥭥𥭪𥭸𥭦𥺈𥺞𥹴𥹺𥹹𥺋𥹿𦀓𦀞𦀗𦀚𦀢𦁃𦀙𦀟𦀧𦀒𦀤𦀥𠍞𦈵𦈴𦋑𦋄𦋊𦋆𦋋𦋍𦋢𦎉𦎋𦎆𦎈𦎍𦐻𦐼𦐽𦓵𦕹𦕵𦖂𦕿𦖅𦕶𦕼𦕾𦕻𦖀𦕺𢕈䏋𦘝𦛶𦛷𦛹𦝣𦝬𦝮𦜔䐍𦝧𦝯𦝩𦝶" ++
   "𦞕𦝱𦝡𦝸",
   "𦝫𦞅𦞄𦤔𦥶𥦶𦥵𦥴𦧢𦨿𦩄𦨽𦩇𦩈𦫛𦫜𦫝𦯥𦯦𦳂𦴮𦴝𦳸𦳰𦳶𦳅𦳆𦳼𦵒𦴯𦴐𦳳𦳒𦳪𦳜𦴛𦳻𦳃𦴖𦴇𦳉𦳘𦴰𦴓𦴱𦳺𦳲𦷣𦳕𦴁𦳱𦴜𦳖𦴈𦴋𦴗𦴠𦳊𦴲𦴅𦳤𦳎𦴳𦴂𦴙𦴞𦳓𦳷𦳨𦴟𦳴𦷘𧆿𧆾𧆽𧋜𧋝𧊫𧋉𧋈𧋟𧋙𧋛𧋌𧋠𧋯𧋳𧊮𧌁𧖷" ++
   "𧖹𧖶𧖸𧗶",
   "𧗳𧗵𧗲𧚑𧚝𧚛𧚒𧚍𧚞𧚌䘱裞𧚕裗𧚊𧚎𧚜𧟯𧠭𧡒𧠵𧠨𧠮𧣥𧧪𧧱𧧫𧧘𧧐𧧳𧧛𧧎䛕𧧚𧧗𧧡𧧲𧧈𧧙𧧞𧧑𧧧𧧏𧮷𧱇𧱂𧱃𧲨𧳃𧳁𧳇𧵤𧵪𧵦𧵐𧵮𧵥𣣬𧵿賁𧶚𧵩𧵲𧵯𧵽𧵰𧹠𧻂𧻧𧻑𧻫𧻔𧻜𧻛𨀷𨀥𨀟𨀞𨀡𨀛𨀗𨀢𨀪𨀚𨀭𨀣𨀦𨀶𧿿𨈺" ++
   "𨉀𨉂𨈸𨈻",
   "𨈼𨉃𨋨䡖𨋹𨋫𨋱𨋩𨋬𨐕𨑇𨑆𨑅𨔤𨕖𨔡𨔧𨕍𨔱𨔞𨔬𨕏𨔫𨕓𨕑𨕔𨔩𨕐𨔟𨔲𨔪𨔝𨔨𨔮𨔭𨚼𨚻𨚽鄑𨝇𨝁𨜮𨝉䣴𨠮𨠧𨥪𨥻𨥳𨥵𨥩𨥹𨥲𨱶𨱷𨱴𨱳𨴂𨳾𨴁𨳹𨳴𨻓𨻕𨻘𨻃𨻊𨻐𨻋𨻎𨻅𨻦𨻄𨻀𨻔𨻨𨽶𨾢𨾮𨾨𨾣𨾧𨾖𨾩𨾥𨾯𨾤𨾫𨾪𨾦" ++
   "𨾠𩂘𩇛𩇶",
   "𩇵𩈌𩈊靵𩉨𩉣𩉦䩘𩉤𩉪𩉩𩎕𩐂𩑪𩑞𩑨𩑩𩑥頋𩖧𩖮𩖨𩖳𩚜𩚩𩚶𩚳𩚲䬳𩚸𩛀𩚿𩚺𩚨𩠼𩡲𩡱𩡵𩡳𩨗𩨕𩨖𩨛𩫺𩫹𩰬𩲅𩲂𩱿𩱽𩲈𤋳𩵎𩵐𩾓𩾗𩾘𩾛𩾜𩾖𪊋𪋽𪋼黹𣦋𠄈𠄇𠍳𠎢𠎯𠎂𠍻𠍴𠎰𠍶𠎹𠎞𠎱𠎡𠎲𠍮像㒇𠍸𠍺𠎃𠎚𠓸𠔱𠕩" ++
   "𠕨𠖜𠘄𠚙",
   "𠟇𠟆𠟜𠟄𠟘𠟔𠟟𠟑𠟐𠟖𠟏𠢭𠢯𠢧𠣽𠥛𠥚𠨇𠪝𠪛𠪫𠪤𠪜𠪞𠪥𠪪𠪦𠬎𠭾𠭼𠻮𠻕𠻩𠹂𠻢𠼣𠻙𠻔𠻣𠼕𠻯𠻰𠻖𠻝𠻶𠼜𠻘𠻛𠻚𠻭𡐑𡈕𡈘𡈚𡈟𡈖圗𡈙圖𡏰𡐉𡐛𧯧𡏶𡏴𡎵𡐐𡏲𡐕𡏳𡏸𡔹𡔻𡔶𡐎𡕲𡕴𡖹𡖷𡖸𡙲𡙫𡠝𡠷𡠢𡡃𡡍𡠸𡡛𡡹" ++
   "𡠛𡟳𡦑𡩻",
   "𡪔寧𡪖𡩿𡪏𡪄𡩼𡪎𡪐𡪘𡪃𡪀𡪓𡪂 𡬽𡭁𡮡𡮟𡰊𡰍𡳈𡳉𡳇𡳍𡴥𡺱𡻜嵼𡻥𡻴𡺿𡻛𡻪𡻲㟺𡻱𡻭𡻦𢀂巢𢄥𢄘𢄟𢄠𢇏𢊝𢊙𢊨𢍨𢍦𢍧𢎑𢐓𢐕𢐝𢐖𢐙𢑫𢑨𢑪𢑭𢑩𢒪𢕗𢕒𢕐𢕟𢕧𢕏㣲𢕛𢕜𢕝𢠟𢞝𢞱𢞰𢞔𢟃𢞯𢞨𢟜𢞘𢟄𢞤𢞫𢞪𢞥𢠡" ++
   "𢟫𢟦𢟷𢟸",
   "𢟼𢟺𢟠慺𢟶慌𢟡𢧬𢧢𢧤𢧹𢱯𣩌𢲻𢳡𢴀𢳘㨯𢳖𢳢𢳃𢲳𢳒掩𢳎𢳐𢳕𢲹𢲺𢳏𢲽𢻛𢾪𢾭𢾸𢾶𢾵𢾯𢾴𢾷𢾨𢾹𢾾𣂂𣂼𣂸𣂶𣂹㫁𣄐𣈧𣉩𣉰𣉖𣉫𣉺𣉬𣉭暜𦟁𣎍𣎐𣖶𣘐𣘒𣖺𣖽𣘅𣗂𣘇𣗵榣𣖯𣗴𣗷𣗸𣘑𣣶𣣵𣣻𣤁𣤀𣤂𣣾𣣺𣣽㱀𣨷𣩉𣩋" ++
   "𣩆𣩇𣪳𣪲",
   "𣪰𣪷𣬑𣯌𣯟𣯓𣯕𣯛𣯅𣯈𣯉𣯢𣯊𣯑𣯒𣯝𣹬𣹳𣼡𣻰𣼟𣼻𣼢𣼣𣻨𣻝㴿𣼛𣻭淹𣻲㵆𣻜𣻩𣼝𣻚𣻦𤌓𤌕𤌖𤌼𤌋𤌜𤌺𤌽𤎚𤌝𤌉𤌈𤌻𤔢𤔦𤔥𤔤𠎛𤖏𤖐𤗦𤗣𤗥𤘑犕𤚮𤚾𤚴𤚳𤚯𤚑𤛂𤚶𤚲𤡗𤠻𤡘𤡑𤡁𤠹㺏𤡙𤡅𤡡𤣨𤧺𤧪𤧯𤧲𤧰𤬈𤭰𤭪" ++
   "𤭳𤭨𤯈𤯲",
   "𠭻𤲮𤲫𤲵𤲯𤲲𤲶𤲰𤴞𤸃𤸆𤸟㾬𤸏𤸂𤸙𤸘𤸢𤸕𤸇𤸍𤸤𤸌𤸞𤾉𤾊𥀊𥀋𥀇𥀄𥀉𥂄𥂃𥈘𥈔𥈅𥈖𥈎𥈑𥈈𥈋𥈕𥂅𥈷𥈪𥈍𥈏𥍾𥍶𥍷𥏬𥓼𥔈𥓿𥔃𥔐𥔅𥔆𥓺𥛇𥛀𥛃𥚧𥚨𥚫𥛁𥚪𥛈𥝃𥠂𥠎𥠁𥟾𥠃䅨𥠢𥠡𥠇𥠈𥠌𥧊𥦼𥦾𥦽𥥼𥦻𥦹䆫𥧅𥪙" ++
   "𥭫𥮓𥮔𥮩",
   "𥮠𥮦𥮫𥮫𥮞𥮛𥮑𥮙𥺶𥺸𥺚䊑𥺘𥺛𥺳𥺢𢊪𥺠𥺟𦁛𦁰𦁔𦁱𦁥𦁑𦂝𦁡𦁚𦁴𦁌𦁋𦁞𦁘𦁓𦁒𦈻𦈹𦋖𦋧𦋗𦋘𦋙𦋚𦋛𦋜𦋠𦋤𦋝𦋵𦋱𦎘𦎝𦎙𦑐𦑉翤𦑢𦓗𦔁𦓷聠𦖌𦖜肈𦘟𦘞𦜽𦜿𦜑𦝙𦜾𦝘𦠀𦞞𦞶𦞪𦞯𦞬䐰𦟀𦞩𠬐𦣮𦥷𦥹𦥺𦥽𦥿𦦃𦥸" ++
   "𦥾𦧤𦧦𦧥",
   "䑝𦩎𦩙䑵䑫𦩏𦩊𦫣𦫞𦫢𦱴𦲬𦱡𦱢𦱶𦱺𦱹𦱠𦵤𦺁𦷟𦶄𦶊𦶒𦵹𦷞𦶘𦵬𦷡𦵫𦵼𦵲𦶁𦷠𦵥䓿𦵪𦶗𦶪𦷓𦶫𦵮𦶬𦵶𦵻𦶭𦳕𦶔𦷗𦵰𦷕𦷱𦵺𦵨𦶖䔋𦵳𦶮𦷝𦷚𦶯𦶰𦷛𦵢𦷸𧇂𧇇𧇈𧇅𧇃𧇆𧋞䗈𧌑𧌕𧌨𧌡𧌭𧍑𧌫𧌖𧌤𧌵𧌟𧌒𧌐𧎀𧌻𧌩𧌪" ++
   "𧌛𧌘𧌠𧌿",
   "𧌜𧌦𧌋𧖾𧗄𧖽𧗺𧗻𧚱𧚲𧚰𧚹𧚦𧚽𧚶𧚸𧚴𧚳𧚧𧚮𧚼𧟲𧟳𧟴𧠻𧡀𧡆𧣰𧣮𧣨𧣱𧣫𧣯𧧼𧨠𧨉𧨆𧨃誠𧨙𧨤𧨛𧨝𧧽𧨞𧧴𧨁𧨈𧨅𧨣𧧿𧯪𧱍𧱎𧱖𧱗𧱑𧱕𧱔𧳋𧳔𧳑𧳏𧳒𧳊𧳖𧶋𧶈𧶅𧶉𡪛𧶻𧶌䝴𧶙𧶊𧻬𧻯𧻹𧼉𧻸𧻳𧼀𧼝䞬𧻽𨁈𨁜𨁕𨁞" ++
   "𨁉𨁣𨁠𨁓",
   "𨁢𨁀𨉉𨉊𨉌𨉍𨌊𨌆𨌯𨌡𨌇𨌉𨌂𨌖𨌃𨌋𨌏𨕠𨕨𨕞𨕝𨕣𨕟𨕤𨕸𨕡𨕩𨕥𨛚𨛦𨛛𨛜𨜹𨝗𨝕𨝥𨝡𨝔𨡅𨡁𨠾𨠷𨤒𨤓𨤬𨦖鋘𨦜𨦝𨦅鋗𨦟𨦣𨲂𨲃開𨴝𨴔𨴟𨴠𨹇𨺀𨻉𨻹𨼆𨻰𨻸𨻯𨻽𨻱𨻾𨾸𨿀𨿃𨾵𨾶𨿉雃𨾽𨾺𨾿𨾳𨿆𨾲𨾼𨾷𨾹𨿈𩂵𩂳" ++
   "䨖𩂬𩂩𩂭",
   "𩈑𩈍𩈖𩊉𩉼𩊋𩉻𩊈𩊄𩎝𩎘𩒈𩒆𩒂𩒋頋𩑱𩑲𩒁𩒌𩒀𩒉𩖻𩗁𩖾𩖶𩖽𩛁𩚴𩚷𩛈䬻𩛓𩛐𩚰𩛊𩛍𩠕𩠙𩠗𩠿𩡀𩡄𩡼𩡸𩡹𩢈駂𩢉𩡽𩨣𩨤𩨦𩨢𩨧𩨟𩫉𩫃𩬊𩬋𩬄䯯𩬃𩬁𩬉𩰏𩰮𩰭𩲑𩲙𩲞𩲐𩲔𩲝𩲘𩲛𩲜𩲚𩵔𩾝𩾟𩾣𩾤𩾥𪌂𪐗𪐛𪐙𪓑𡔷"]

end Catalog.Charset
