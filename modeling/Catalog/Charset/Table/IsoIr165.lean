/-!
This module contains what ISO-IR-165 has beyond GB 2312, in rows of 94.
-/

namespace Catalog.Charset

def isoIr165Rows : Array String :=
  #["",
   "",
   "",
   "",
   "",
   "",
   "",
   "",
   "",
   "",
   "ᾱάᾰὰēéěèīíǐìōóǒòūúǔùǖǘǚǜüêαḿńňǹｇ",
   "厾亸伾倞僇鄘沘泜泃湝溦滫澥慥庤阘塈葓糵弇抔摽牚啴喤噀嚄崟狉馌姞姽婞纻绤绹骙燏扅扊祼玚琫璈璪瓘杧檵燊殣辀辒赟鬶犨螣腒欸飐袗袯襕眊铚镚镠鸤鹀鹐鹝鹠蜎筜翙翯繄蹅踶蹢蹜靸魆鼫齁甦並讬脩傑働" ++
   "効觔啗铇",
   "钖钘铏铓铔铦锳锜锠锧锽镃镮镴鲀鲄鲊鲓鲖鲗鲘鲙鲿鳀鳁鳒鳛鳠鳣靰靺鞡鞮鞨饤饦饸饹饻饾馂馃馎鬐鬘斢麀鄜麑鼒勳沖浄減湧澂濬悮廈迺坿喆蒞葠尅帋崑崙巖妳媮骔斏炞畑燿椝樑梿昇暎晳氥癒瞋盪颕螀蠭箇" ++
   "籐躭镵旂",
   "厐禸伕伡伻侢傤傒匊凃冨贠垇垚垕埫塝塚塱墕尰弌弍弎屲峇徬彨彟娒婥媄嫄玔珪珮琷琕瑔枙桬棸槾狢晧赒觃觍搧摷氝脿歔飖灺烱焠慓沇涭溁溵澔澛礽祎砆硙碔磜礃稖穞痠竜癶颒篲簰籝鲝粬艸菑蓪翀缞踡蹓靔" ++
   "鼌铻",
   "㋀㋁㋂㋃㋄㋅㋆㋇㋈㋉㋊㋋㏠㏡㏢㏣㏤㏥㏦㏧㏨㏩㏪㏫㏬㏭㏮㏯㏰㏱㏲㏳㏴㏵㏶㏷㏸㏹㏺㏻㏼㏽㏾㍘㍙㍚㍛㍜㍝㍞㍟㍠㍡㍢㍣㍤㍥㍦㍧㍨㍩㍪㍫㍬㍭㍮㍯㍰〷邨陞塂堃氾洩滧蔴蓆挼崅缐绬犇焮舘舖畬痳鬥覀" ++
   "粦亅啰釆",
   "",
   "",
   "",
   "",
   "",
   "",
   "",
   "",
   "",
   "",
   "",
   "",
   "",
   "",
   "",
   "",
   "",
   "",
   "",
   "",
   "",
   "",
   "",
   "",
   "",
   "",
   "",
   "",
   "",
   "",
   "",
   "",
   "",
   "",
   "",
   "",
   "",
   "",
   "",
   "",
   "",
   "",
   "",
   "",
   "",
   "",
   "",
   "",
   "",
   "",
   "",
   "",
   "",
   "",
   "",
   "",
   "",
   "",
   "",
   "",
   "",
   "",
   "",
   "",
   "",
   "",
   "",
   "",
   "",
   "",
   "",
   "",
   "",
   "",
   "丏朿乂甪夬黡虒匜冇冏僰伋伣伃佡佺佫俫俵倴倢俶偲亶冮夐毚刬刲侴劘劻劼勍勚勷叆叇坰坬垱垟垞垾埌堎堌埵堉堼塃塅塆堽塓墈墄壸嚭奀奓奭尪咥唝唶啯啍嚚嚜囷圐圙帗帡帨幪屴屼岨岞峃峓峣峧峿崄崀崚崌" ++
   "嵎嵚嶅嶓",
   "嶒巂巉衒徯夆斨牁牂庼廋闬闿訚阇阓阛宬宧屝弢姮婼媖婳媞媭嫚嫪嬛孖驲骃骉骍骎骕骦玕玙玠玱玥玦珖珰珽珣琤琎琇珶珺琲琯瑄瑂瑱瑸瑢璆璟璠璘璲韨杅枟杻柈柮桋梠栒栟桪梼棻桯梱棁棫椓棑椑棓棬椫棨榾" ++
   "楩楀楯楟",
   "楢椵楙榼槅槚槜樋槥橦檖檴狝峱猔猺殕彧胾瓻甃敜敩漦旸旻昉昽晢晞晬暍暋赑赗牣牷掱扡扠抃拤拃挜挦掯揾搢搒擭朓朘腘臑飏飔飗榖炘烜烺焌焜燋爟烝斝扆怗惇惓悰惙愔氿汧沄沚汭沨泆沵浉洸洑洺洨浐洴浕" ++
   "浡涢浥浛",
   "浤涴溚湜湲溠溇溎滉滃漷滘滪潖潵潟澴澼瀔瀍瀌瀼祃祇祊祐祲禘禠禤矼矻砢砠硁硚硵碶磡礳詟盻眛眬瞆瞫瞭畤畯榃罽盝盦盬甡秾穄癿皞鸧鸮鸰鸴鹍鹒鹓鹔鹖鹙鹡鹢鹥鹯鹴疢瘄瘈瘝竑窅窎窣窸窾矞耰颋颎颙颣" ++
   "蚃蜅蝘蟏",
   "蟢蠋胔罍筊筎筿箓篯簉篰簕簃簠舺袆袪裀裈褦襶羑芃芼芧茓苾茀荝荅荄茝莦莙菾萚菼萩萹蒨蓏蒟蓂蓷蕰薳薢雘薸藠翚纮纴纼绖缊孃赪剅豨豮豭踖踦踧蹐邘邠邽郈郃郚郿鄚鄌鄠酂辵郤貆觱讱讻诇诪谉谞霂棐猆" ++
   "龁龂鋆钑"]

end Catalog.Charset
