/-!
# Korean characters

The inner square of the grid of Korean, in the format of `Charset.Grid`.  A row
of the grid has 190 cells.  The inner square lies below the first 32 rows and to
the right of the first 96 cells of a row.
-/

namespace PageExtract.Charset.Korean

/-- The inner square: signs, letters, common syllables and characters. -/
def innerTable : String :=
   "1820+3000.1 1821:、。·‥…¨〃 1828+ad.1 1829:―∥＼∼‘’“”〔〕 1833+3008.a 183d:±×÷≠≤≥∞∴°′″℃Å￠￡￥♂♀∠⊥⌒∂∇≡
    1855:≒§※☆★○●◎◇◆□■△▲▽▼→←↑↓↔〓≪≫√∽∝∵∫∬∈∋⊆⊇⊂⊃∪∩∧∨￢ 18de:⇒⇔∀∃´～ˇ˘˝˚˙¸˛¡¿ː∮∑∏¤℉‰◁◀▷▶♤♠♡♥♧♣⊙◈▣◐◑▒▤▥
    1906:▨▧▦▩♨☏☎☜☞¶†‡↕↗↙↖↘♭♩♪♬㉿㈜№㏇™㏂㏘℡€® 199c+ff01.3b 19d7:￦ 19d8+ff3d.21 19f9:￣ 1a5a+3131.5e
    1b18+2170.a 1b27+2160.a 1b38+391.11 1b49+3a3.7 1b58+3b1.11 1b69+3c3.7 1bd6:─│┌┐┘└├┬┤┴┼━┃┏┓┛┗
    1be7:┣┳┫┻╋┠┯┨┷┿┝┰┥┸╂┒┑┚┙┖┕┎┍┞┟┡┢┦┧┩┪┭┮┱┲┵┶┹┺┽┾╀╁ 1c12+2543.8 1c94:㎕㎖㎗ℓ㎘㏄㎣㎤㎥㎦ 1c9e+3399.a
    1ca8:㏊㎍㎎㎏㏏㎈㎉㏈㎧㎨ 1cb2+33b0.a 1cbc:㎀㎁㎂㎃㎄ 1cc1+33ba.6 1cc7:㎐㎑㎒㎓㎔Ω㏀㏁㎊㎋㎌㏖㏅㎭㎮㎯㏛㎩㎪㎫㎬㏝㏐㏓㏃㏉㏜㏆
    1d52:ÆÐªĦ 1d57:Ĳ 1d59:ĿŁØŒºÞŦŊ 1d62+3260.1c 1d7e+24d0.1a 1d98+2460.f 1da7:½⅓⅔¼¾⅛⅜⅝⅞
    1e10:æđðħıĳĸŀłøœßþŧŋŉ 1e20+3200.1c 1e3c+249c.1a 1e56+2474.f 1e65:¹²³⁴ⁿ₁₂₃₄ 1ece+3041.53
    1f8c+30a1.56 204a+410.6 2050:Ё 2051+416.1a 207a+430.6 2080:ё 2081+436.1a 2342:가각간갇갈갉갊
    2349+ac10.8 2351:같갚갛개객갠갤갬갭갯갰갱갸갹갼걀걋걍걔걘걜거걱건걷걸걺검겁것겄겅겆겉겊겋게겐겔겜겝겟겠겡겨격겪견겯결겸겹겻겼경곁계곈곌곕곗고곡곤곧골곪곬곯곰곱곳공곶과
    239c:곽관괄괆 2400:괌괍괏광괘괜괠괩괬괭괴괵괸괼굄굅굇굉교굔굘굡굣구국군굳굴굵굶굻굼굽굿궁궂궈궉권궐궜궝궤궷귀귁귄귈귐귑귓규균귤그극근귿글긁금급긋긍긔기긱긴긷길긺김깁깃깅깆깊
    244d:까깍깎깐깔깖깜깝깟깠깡깥깨깩깬깰깸 24be:깹깻깼깽꺄꺅꺌꺼꺽꺾껀껄껌껍껏껐껑께껙껜껨껫껭껴껸껼꼇꼈꼍꼐꼬꼭꼰꼲꼴꼼꼽꼿꽁꽂꽃꽈꽉꽐꽜꽝꽤꽥꽹꾀꾄꾈꾐꾑꾕꾜꾸꾹꾼꿀꿇꿈꿉꿋
    24fe:꿍꿎꿔꿜꿨꿩꿰꿱꿴꿸뀀뀁뀄뀌뀐뀔뀜뀝뀨끄끅끈끊끌끎끓끔끕끗끙 257c:끝끼끽낀낄낌낍낏낑나낙낚난낟날낡낢남납낫났낭낮낯낱낳내낵낸낼냄냅냇냈냉냐냑냔냘냠냥너넉넋넌널넒넓넘넙넛
    25af:넜넝넣네넥넨넬넴넵넷넸넹녀녁년녈념녑녔녕녘녜녠노녹논놀놂놈놉놋농높놓놔놘놜놨뇌뇐뇔뇜뇝 263a:뇟뇨뇩뇬뇰뇹뇻뇽누눅눈눋눌눔눕눗눙눠눴눼뉘뉜뉠뉨뉩뉴뉵뉼늄늅늉느늑는늘늙늚늠
    2660:늡늣능늦늪늬늰늴니닉닌닐닒님닙닛닝닢다닥닦단닫달닭닮닯닳담답닷닸당닺닻닿대댁댄댈댐댑댓댔댕댜더덕덖던덛덜덞덟덤덥 26f8:덧덩덫덮데덱덴델뎀뎁뎃뎄뎅뎌뎐뎔뎠뎡뎨뎬도독돈돋돌
    2711:돎돐돔돕돗동돛돝돠돤돨돼됐되된될됨됩됫됴두둑둔둘둠둡둣둥둬뒀뒈뒝뒤뒨뒬뒵뒷뒹듀듄듈듐듕드득든듣들듦듬듭듯등듸디딕딘딛딜딤딥딧딨딩딪따딱딴딸 27b6:땀땁땃땄땅땋때땍땐땔땜땝
    27c2:땟땠땡떠떡떤떨떪떫떰떱떳떴떵떻떼떽뗀뗄뗌뗍뗏뗐뗑뗘뗬또똑똔똘똥똬똴뙈뙤뙨뚜뚝뚠뚤뚫뚬뚱뛔뛰뛴뛸뜀뜁뜅뜨뜩뜬뜯뜰뜸뜹뜻띄띈띌띔띕띠띤띨띰띱띳띵라락란랄람랍랏랐랑랒랖랗
    2874:래랙랜랠램랩랫랬랭랴략랸럇량러럭런럴럼럽럿렀렁렇레렉렌렐렘렙렛렝려력련렬렴렵렷렸령례롄롑롓로록론롤롬롭롯롱롸롼뢍뢨뢰뢴뢸룀룁룃룅료룐룔룝룟룡루룩룬룰룸룹룻룽뤄뤘뤠뤼뤽륀륄륌륏
    28cb:륑류륙륜률륨륩 2932:륫륭르륵른를름릅릇릉릊릍릎리릭린릴림립릿링마막만많맏말맑맒맘맙맛망맞맡맣매맥맨맬맴맵맷맸맹맺먀먁먈먕머먹먼멀멂멈멉멋멍멎멓메멕멘멜멤멥멧멨멩며멱면멸
    297c:몃몄명몇몌모목몫몬몰몲몸몹못몽뫄뫈뫘뫙뫼 29f0:묀묄묍묏묑묘묜묠묩묫무묵묶문묻물묽묾뭄뭅뭇뭉뭍뭏뭐뭔뭘뭡뭣뭬뮈뮌뮐뮤뮨뮬뮴뮷므믄믈믐믓미믹민믿밀밂밈밉밋밌밍및밑바박밖밗반
    2a2d:받발밝밞밟밤밥밧방밭배백밴밸뱀뱁뱃뱄뱅뱉뱌뱍뱐뱝버벅번벋벌벎범법벗 2aae:벙벚베벡벤벧벨벰벱벳벴벵벼벽변별볍볏볐병볕볘볜보복볶본볼봄봅봇봉봐봔봤봬뵀뵈뵉뵌뵐뵘뵙뵤뵨부북분
    2ade:붇불붉붊붐붑붓붕붙붚붜붤붰붸뷔뷕뷘뷜뷩뷰뷴뷸븀븃븅브븍븐블븜븝븟비빅빈빌빎빔빕빗빙빚빛빠빡빤 2b6c:빨빪빰빱빳빴빵빻빼빽뺀뺄뺌뺍뺏뺐뺑뺘뺙뺨뻐뻑뻔뻗뻘뻠뻣뻤뻥뻬뼁뼈뼉뼘뼙
    2b8f:뼛뼜뼝뽀뽁뽄뽈뽐뽑뽕뾔뾰뿅뿌뿍뿐뿔뿜뿟뿡쀼쁑쁘쁜쁠쁨쁩삐삑삔삘삠삡삣삥사삭삯산삳살삵삶삼삽삿샀상샅새색샌샐샘샙샛샜생샤 2c2a:샥샨샬샴샵샷샹섀섄섈섐섕서석섞섟선섣설섦섧섬
    2c40:섭섯섰성섶세섹센셀셈셉셋셌셍셔셕션셜셤셥셧셨셩셰셴셸솅소속솎손솔솖솜솝솟송솥솨솩솬솰솽쇄쇈쇌쇔쇗쇘쇠쇤쇨쇰쇱쇳쇼쇽숀숄숌숍숏숑수숙순숟술숨숩숫숭 2ce8:숯숱숲숴쉈쉐쉑쉔쉘
    2cf1:쉠쉥쉬쉭쉰쉴쉼쉽쉿슁슈슉슐슘슛슝스슥슨슬슭슴습슷승시식신싣실싫심십싯싱싶싸싹싻싼쌀쌈쌉쌌쌍쌓쌔쌕쌘쌜쌤쌥쌨쌩썅써썩썬썰썲썸썹썼썽쎄쎈쎌쏀쏘쏙쏜쏟쏠쏢쏨쏩쏭쏴쏵쏸쐈쐐쐤쐬쐰
    2da6:쐴쐼쐽쑈쑤쑥쑨쑬쑴쑵쑹쒀쒔쒜쒸쒼쓩쓰쓱쓴쓸쓺쓿씀씁씌씐씔씜씨씩씬씰씸씹씻씽아악안앉않알앍앎앓암압앗았앙앝앞애액앤앨앰앱앳앴앵야약얀얄얇얌얍얏양얕얗얘얜얠얩어억언얹얻얼얽얾
    2dfb+c5c4.7 2e02:엌엎 2e64:에엑엔엘엠엡엣엥여역엮연열엶엷 2e73+c5fc.6 2e79:옅옆옇예옌옐옘옙옛옜오옥온올옭옮옰옳옴옵옷옹옻와왁완왈왐왑왓왔왕왜왝
    2e9b:왠왬왯왱외왹왼욀욈욉욋욍요욕욘욜욤욥욧용우욱운울욹욺움웁웃웅워웍원월웜웝웠웡웨 2f22:웩웬웰웸웹웽위윅윈윌윔윕윗윙유육윤율윰윱윳융윷으윽은을읊음읍읏
    2f41+c751.8 2f49:읜읠읨읫이익인일읽읾잃임입잇있잉잊잎자작잔잖잗잘잚잠잡잣잤장잦재잭잰잴잼잽잿쟀쟁쟈쟉쟌쟎쟐쟘쟝쟤쟨쟬저적전절젊 2fe0:점접젓정젖제젝젠젤젬젭젯젱져
    2fee:젼졀졈졉졌졍졔조족존졸졺좀좁좃종좆좇좋좌좍좔좝좟좡좨좼좽죄죈죌죔죕죗죙죠죡죤죵주죽준줄줅줆줌줍줏중줘줬줴쥐쥑쥔쥘쥠쥡쥣쥬쥰쥴쥼즈즉즌즐즘즙즛증지직진짇질짊짐집짓
    309e:징짖짙짚짜짝짠짢짤짧짬짭짯짰짱째짹짼쨀쨈쨉쨋쨌쨍쨔쨘쨩쩌쩍쩐쩔쩜쩝쩟쩠쩡쩨쩽쪄쪘쪼쪽쫀쫄쫌쫍쫏쫑쫓쫘쫙쫠쫬쫴쬈쬐쬔쬘쬠쬡쭁쭈쭉쭌쭐쭘쭙쭝쭤쭸쭹쮜쮸쯔쯤쯧쯩찌찍찐찔찜찝찡찢찧차
    30f5:착찬찮찰참찹찻 315c:찼창찾채책챈챌챔챕챗챘챙챠챤챦챨챰챵처척천철첨첩첫첬청체첵첸첼쳄쳅쳇쳉쳐쳔쳤쳬쳰촁초촉촌촐촘촙촛총촤촨촬촹최쵠쵤쵬쵭쵯쵱쵸춈추축춘출춤춥춧충춰췄췌췐
    31a6:취췬췰췸췹췻췽츄츈츌츔츙츠측츤츨츰츱츳층 321a:치칙친칟칠칡침칩칫칭카칵칸칼캄캅캇캉캐캑캔캘캠캡캣캤캥캬캭컁커컥컨컫컬컴컵컷컸컹케켁켄켈켐켑켓켕켜켠켤켬켭켯켰켱켸코콕콘콜
    3257:콤콥콧콩콰콱콴콸쾀쾅쾌쾡쾨쾰쿄쿠쿡쿤쿨쿰쿱쿳쿵쿼퀀퀄퀑퀘퀭퀴퀵퀸퀼 32d8:큄큅큇큉큐큔큘큠크큭큰클큼큽킁키킥킨킬킴킵킷킹타탁탄탈탉탐탑탓탔탕태택탠탤탬탭탯탰탱탸턍터턱턴털
    3308:턺텀텁텃텄텅테텍텐텔템텝텟텡텨텬텼톄톈토톡톤톨톰톱톳통톺톼퇀퇘퇴퇸툇툉툐투툭툰툴툼툽툿퉁퉈퉜 3396:퉤튀튁튄튈튐튑튕튜튠튤튬튱트특튼튿틀틂틈틉틋틔틘틜틤틥티틱틴틸팀팁팃팅
    33b9:파팍팎판팔팖팜팝팟팠팡팥패팩팬팰팸팹팻팼팽퍄퍅퍼퍽펀펄펌펍펏펐펑페펙펜펠펨펩펫펭펴편펼폄폅폈평폐폘폡폣포폭폰폴폼폽폿퐁 3454:퐈퐝푀푄표푠푤푭푯푸푹푼푿풀풂품풉풋풍풔풩퓌
    346a:퓐퓔퓜퓟퓨퓬퓰퓸퓻퓽프픈플픔픕픗피픽핀필핌핍핏핑하학한할핥함합핫항해핵핸핼햄햅햇했행햐향허헉헌헐헒험헙헛헝헤헥헨헬헴헵헷헹혀혁현혈혐협혓혔형혜혠 3512:혤혭호혹혼홀홅홈홉
    351b:홋홍홑화확환활홧황홰홱홴횃횅회획횐횔횝횟횡효횬횰횹횻후훅훈훌훑훔훗훙훠훤훨훰훵훼훽휀휄휑휘휙휜휠휨휩휫휭휴휵휸휼흄흇흉흐흑흔흖흗흘흙흠흡흣흥흩희흰흴흼흽힁히힉힌힐힘힙힛힝
    368e:伽佳假價加可呵哥嘉嫁家暇架枷柯歌珂痂稼苛茄街袈訶賈跏軻迦駕刻却各恪慤殼珏脚覺角閣侃刊墾奸姦干幹懇揀杆柬桿澗癎看磵稈竿簡肝艮艱諫間乫喝曷渴碣竭葛褐蝎鞨勘坎堪嵌感憾戡敢柑橄減甘疳
    36e5:監瞰紺邯鑑鑒龕 374c:匣岬甲胛鉀閘剛堈姜岡崗康强彊慷江畺疆糠絳綱羌腔舡薑襁講鋼降鱇介价個凱塏愷愾慨改槪漑疥皆盖箇芥蓋 377b+f900.1 377c:鎧開喀客坑
    3781+f901.1 3782:粳羹醵倨去居巨拒据據擧渠炬祛距踞 3792+f902.1 3793:遽鉅鋸乾件健巾建愆楗腱虔蹇鍵騫乞傑杰桀儉劍劒檢 380a:瞼鈐黔劫怯迲偈憩揭擊格檄
    3816:激膈覡隔堅牽犬甄絹繭肩見譴遣鵑抉決潔結缺訣兼慊箝謙鉗鎌京俓倞傾儆勁勍卿坰境庚徑慶憬擎敬景暻更梗涇炅烱璟璥瓊痙硬磬竟競絅經耕耿脛莖警輕逕鏡頃頸驚鯨係啓堺契季屆悸戒桂械
    38c8:棨溪界癸磎稽系繫繼計誡谿階鷄古叩告呱固姑孤尻庫拷攷故敲暠枯槁沽痼皐睾稿羔考股膏苦苽菰藁蠱袴誥 38f6+f903.1 38f7:辜錮雇顧高鼓哭斛曲梏穀谷鵠困坤崑昆梱棍滾琨袞鯤
    390e:汨 390f+f904.1 3910:骨供公共功孔工恐恭拱控攻珙空蚣貢鞏串寡戈果瓜 3986:科菓誇課跨過鍋顆廓槨藿郭 3992+f905.1 3993:冠官寬慣棺款灌琯瓘管
    399d:罐菅觀貫關館刮恝括适侊光匡壙廣曠洸炚狂珖筐胱鑛卦掛罫乖傀塊壞怪愧拐槐魁宏紘肱轟交僑咬喬嬌嶠巧攪敎校橋狡皎矯絞翹膠蕎蛟較轎郊餃驕鮫丘久九仇俱具勾 3a44:區口句咎嘔坵垢寇嶇廐
    3a4e:懼拘救枸柩構歐毆毬求溝灸狗玖球瞿矩究絿耉臼舅舊苟衢謳購軀逑邱鉤銶駒驅鳩鷗龜國局菊鞠鞫麴君窘群裙軍郡堀屈掘窟宮弓穹窮芎躬倦券勸卷圈拳捲權淃眷厥獗蕨蹶闕机櫃潰詭軌饋
    3a9e+f906.1 3a9f:晷歸貴 3b02:鬼 3b03+f907.1 3b04:叫圭奎揆槻珪硅窺竅糾葵規赳逵閨勻均畇筠菌鈞 3b19+f908.1 3b1a:橘克剋劇戟棘極隙
    3b22:僅劤勤懃斤根槿瑾筋芹菫覲謹近饉 3b31+f909.1 3b32:今妗擒昑檎琴禁禽芩衾衿襟 3b3e+f90a.1 3b3f:錦伋及急扱汲級給亘兢矜肯企伎其冀嗜器圻基埼夔奇妓
    3b57:寄岐崎己幾忌技旗旣 3bc0:朞期杞棋棄機欺氣汽沂淇玘琦琪璂璣畸畿碁磯祁祇祈祺箕紀綺羈耆耭肌記譏豈起錡錤飢饑騎騏驥麒緊佶吉拮桔金喫儺 3bf3+f90b.2
    3bf5:娜懦 3bf7+f90d.1 3bf8:拏拿 3bfa+f90e.6 3c00:那 3c01+f914.5 3c06:諾 3c07+f919.4 3c0b:暖
    3c0c+f91d.1 3c0d:煖 3c0e+f91e.2 3c10:難 3c11+f920.1 3c12:捏捺南 3c15+f921.1 3c16:枏楠湳 3c19+f922.1
    3c1a:男 3c1b+f923.3 3c7e:納 3c7f+f926.2 3c81:衲囊娘 3c84+f928.5 3c89:乃 3c8a+f92d.1 3c8b:內奈柰耐
    3c8f+f92e.1 3c90:女年撚秊念恬拈捻寧寗努 3c9b+f92f.1 3c9c:奴弩怒 3c9f+f930.3 3ca2:瑙 3ca3+f933.6
    3ca9:駑 3caa+f939.b 3cb5:濃 3cb6+f944.2 3cb8:膿農惱 3cbb+f946.2 3cbd:腦 3cbe+f948.2 3cc0:尿
    3cc1+f94a.8 3cc9:嫩訥杻紐 3ccd+f952.6 3cd3:能 3cd4+f958.2 3cd6:尼泥匿溺多茶 3d3c:丹亶但單團壇彖斷旦檀段湍短端簞緞蛋袒鄲鍛撻澾
    3d52:獺疸達啖坍憺擔曇淡湛潭澹痰聃膽蕁覃談譚錟沓畓答踏遝唐堂塘幢戇撞棠當糖螳黨代垈坮大對岱帶待戴擡玳臺袋貸隊黛宅德悳倒刀到圖堵塗導屠島嶋度徒悼挑掉搗桃 3dfa:棹櫂淘渡滔濤燾盜睹
    3e03:禱稻萄覩賭跳蹈逃途道都鍍陶韜毒瀆牘犢獨督禿篤纛讀墩惇敦旽暾沌焞燉豚頓乭突仝冬凍動同憧東桐棟洞潼疼瞳童胴董銅兜斗杜枓痘竇荳 3e3f+f95a.1 3e40:豆逗頭屯臀芚遁遯鈍
    3e49:得嶝橙燈登等藤謄鄧騰喇懶 3e55+f95b.1 3e56:癩羅 3eb8:蘿螺裸邏 3ebc+f95c.1 3ebd:洛烙珞絡落 3ec2+f95d.1
    3ec3:酪駱 3ec5+f95e.1 3ec6:亂卵欄欒瀾爛蘭鸞剌辣嵐擥攬欖濫籃纜藍襤覽拉臘蠟廊朗浪狼琅瑯螂郞來崍徠萊冷掠略亮倆兩凉梁樑粮粱糧良諒輛量侶儷勵呂廬慮戾旅櫚濾礪藜蠣閭驢驪
    3f09:麗黎力曆歷瀝礫轢靂憐戀攣漣 3f76:煉璉練聯蓮輦連鍊冽列劣洌烈裂廉斂殮濂簾獵令伶囹 3f8d+f95f.1 3f8e:岺嶺怜玲笭羚翎聆逞鈴零靈領齡例澧禮醴隷勞
    3fa2+f960.1 3fa3:撈擄櫓潞瀘爐盧老蘆虜路輅露魯鷺鹵碌祿綠菉錄鹿麓論壟弄朧瀧瓏籠聾儡瀨牢磊賂賚賴雷了僚寮廖料燎療瞭聊蓼 4034:遼鬧龍壘婁屢樓淚漏瘻累縷蔞褸鏤陋劉旒柳榴
    4048:流溜瀏琉瑠留瘤硫謬類六戮陸侖倫崙淪綸輪律慄栗 405e+f961.1 405f:隆勒肋凜凌楞稜綾菱陵俚利厘吏唎履悧李梨浬犁狸理璃 4077+f962.1
    4078:痢籬罹羸莉裏裡里釐離鯉吝潾燐璘藺躪隣鱗麟林淋琳臨霖砬 40f2:立笠粒摩瑪痲碼磨馬魔麻寞幕漠膜莫邈万卍娩巒彎慢挽晩曼滿漫灣瞞萬蔓蠻輓饅鰻唜抹末沫茉襪靺亡妄忘忙望網罔芒茫莽輞邙
    4129:埋妹媒寐昧枚梅每煤罵買賣邁魅脈貊陌驀麥孟氓猛盲盟萌冪覓免冕勉棉沔眄眠綿緬面麵滅 41b0:蔑冥名命明暝椧溟皿瞑茗蓂螟酩銘鳴袂侮冒募姆帽慕摸摹暮某模母毛牟牡瑁眸矛耗芼茅謀謨貌木
    41da:沐牧目睦穆鶩歿沒夢朦蒙卯墓妙廟描昴杳渺猫竗苗錨務巫憮懋戊拇撫无楙武毋無珷畝繆舞茂蕪誣貿霧鵡墨默們刎吻問文 426e:汶紊紋聞蚊門雯勿沕物味媚尾嵋彌微未梶楣渼湄眉米美薇謎迷靡黴
    428b:岷悶愍憫敏旻旼民泯玟珉緡閔密蜜謐剝博拍搏撲朴樸泊珀璞箔粕縛膊舶薄迫雹駁伴半反叛拌搬攀斑槃泮潘班畔瘢盤盼磐磻礬絆般蟠返頒飯勃拔撥渤潑 432c:發跋醱鉢髮魃倣傍坊妨尨幇彷房放方
    433c:旁昉枋榜滂磅紡肪膀舫芳蒡蚌訪謗邦防龐倍俳 4350+f963.1 4351:培徘拜排杯湃焙盃背胚裴裵褙賠輩配陪伯佰帛柏栢白百魄幡樊煩燔番 436f+f964.1
    4370:繁蕃藩飜伐筏罰閥凡帆梵氾汎泛犯範范法琺僻劈壁擘檗璧癖 43ea:碧蘗闢霹 43ee+f965.1 43ef:卞弁變辨辯邊別瞥鱉鼈丙倂兵屛幷昞昺柄棅炳甁病秉竝輧餠騈保堡報寶普步
    4410:洑湺潽珤甫菩補褓譜輔伏僕匐卜宓復服福腹茯蔔複覆輹輻馥鰒本乶俸奉封峯峰捧棒烽熢琫縫蓬蜂逢鋒鳳不付俯傅剖副否咐埠夫婦 44a8:孚孵富府 44ac+f966.1
    44ad:扶敷斧浮溥父符簿缶腐腑膚艀芙莩訃負賦賻赴趺部釜阜附駙鳧北分吩噴墳奔奮忿憤扮昐汾焚盆粉糞紛芬賁雰 44dc+f967.1 44dd:佛弗彿拂崩朋棚硼繃鵬丕備匕匪卑妃婢庇悲憊扉批
    44f3:斐枇榧比毖毗毘沸 44fb+f968.1 44fc:琵痺砒碑秕秘粃緋翡肥 4566:脾臂菲蜚裨誹譬費鄙非飛鼻嚬嬪彬斌檳殯浜濱瀕牝玭貧賓頻憑氷聘騁乍事些仕伺似使俟僿史司唆嗣四士
    4593:奢娑寫寺射巳師徙思捨斜斯柶査梭死沙泗渣瀉獅砂社祀祠私篩紗絲肆舍莎蓑蛇裟詐詞謝賜赦辭邪飼駟麝削 45c1+f969.1 45c2:朔 45c3+f96a.1
    4624:傘刪山散汕珊産疝算蒜酸霰乷撒殺煞薩三 4636+f96b.1 4637:杉森渗芟蔘衫揷澁鈒颯上傷像償商喪嘗孀尙峠常床庠廂想桑橡湘爽牀狀相祥箱翔裳觴詳象賞霜塞璽賽嗇
    4664+f96c.1 4665:穡索色牲生甥 466b+f96d.1 466c:笙墅壻嶼序庶徐恕抒捿敍暑曙書栖棲犀瑞筮絮緖署 46e2:胥舒薯西誓逝鋤黍鼠夕奭席惜昔晳析汐淅潟石碩蓆釋
    46f9:錫仙僊先善嬋宣扇敾旋渲煽琁瑄璇璿癬禪線繕羨腺膳船蘚蟬詵跣選銑鐥饍鮮卨屑楔泄洩渫舌薛褻設說雪齧剡暹殲纖蟾贍閃陝攝涉燮 4732+f96e.1 4733:城姓宬性惺成星晟猩珹盛省
    473f:筬 47a0:聖聲腥誠醒世勢歲洗稅笹細 47ac+f96f.1 47ad:貰召嘯塑宵小少巢所掃搔昭梳沼消溯瀟炤燒甦疏疎瘙笑篠簫素紹蔬蕭蘇訴逍遡邵銷韶騷俗屬束涑粟續謖贖速孫巽損
    47df:蓀遜飡率宋悚松淞訟誦送頌刷 47ec+f970.1 47ed:灑碎鎖衰釗修受嗽囚垂壽嫂守岫峀帥愁 485e:戍手授搜收數樹殊水洙漱燧狩獸琇璲瘦睡秀穗竪粹綏綬繡羞脩茱蒐蓚藪袖誰
    487f:讐輸遂邃酬銖銹隋隧隨雖需須首髓鬚叔塾夙孰宿淑潚熟琡璹肅菽巡徇循恂旬栒楯橓殉洵淳珣盾瞬筍純脣舜荀蓴蕣詢諄醇錞順馴戌術述鉥崇崧 491c:嵩瑟膝蝨濕拾習褶襲丞乘僧勝升承昇繩蠅陞侍
    4930:匙嘶始媤尸屎屍市弑恃施是時枾柴猜矢示翅蒔蓍視試詩諡豕豺埴寔式息拭植殖湜熄篒蝕識軾食飾伸侁信呻娠宸愼新晨燼申神紳腎臣莘薪藎蜃訊身辛 4970+f971.1
    4971:迅失室實悉審尋心沁 49da+f972.1 49db:深瀋甚芯諶什十 49e2+f973.1 49e3:雙氏亞俄兒啞娥峨我牙芽莪蛾衙訝阿雅餓鴉鵝堊岳嶽幄惡愕握樂渥鄂鍔顎鰐齷安
    4a06:岸按晏案眼雁鞍顔鮟斡謁軋閼唵岩巖庵暗癌菴闇壓押狎鴨仰央怏昻殃秧鴦厓哀埃崖愛曖涯碍艾隘靄厄扼掖液縊腋額 4a98:櫻罌鶯鸚也倻冶夜惹揶椰爺耶 4aa5+f974.1
    4aa6:野弱 4aa8+f975.2 4aaa:約若葯蒻藥躍 4ab0+f977.1 4ab1:佯 4ab2+f978.2 4ab4:壤孃恙揚攘敭暘 4abb+f97a.1
    4abc:楊樣洋瀁煬痒瘍禳穰 4ac5+f97b.1 4ac6:羊 4ac7+f97c.1 4ac8:襄 4ac9+f97d.1 4aca:讓釀陽 4acd+f97e.1
    4ace:養圄御於漁瘀禦語馭魚齬億憶抑檍臆偃堰彦焉言諺孼蘖俺儼嚴奄掩淹嶪業円予余 4af1+f97f.3 4af4:如 4af5+f982.1 4b56+f983.1
    4b57:歟汝 4b59+f984.1 4b5a:璵礖 4b5c+f985.1 4b5d:與艅茹輿轝 4b62+f986.1 4b63:餘 4b64+f987.3
    4b67:亦 4b68+f98a.1 4b69:域役易 4b6c+f98b.2 4b6e:疫繹譯 4b71+f98d.1 4b72:逆驛嚥堧姸娟宴 4b79+f98e.1
    4b7a:延 4b7b+f98f.2 4b7d:捐挻 4b7f+f991.1 4b80:椽沇沿涎涓淵演 4b87+f992.1 4b88:烟然煙 4b8b+f993.1
    4b8c:燃燕 4b8e+f994.1 4b8f:硏硯 4b91+f995.1 4b92:筵緣 4b94+f996.1 4b95:縯 4b96+f997.1 4b97:衍軟
    4b99+f998.3 4b9c:鉛 4b9d+f99b.1 4b9e:鳶 4b9f+f99c.3 4ba2:悅涅 4ba4+f99f.1 4ba5:熱 4ba6+f9a0.2
    4ba8:閱厭 4baa+f9a2.3 4bad:染 4bae+f9a5.1 4baf:炎焰琰艶苒 4c14+f9a6.1 4c15:閻髥鹽曄 4c19+f9a7.1
    4c1a:燁葉 4c1c+f9a8.2 4c1e:塋 4c1f+f9aa.2 4c21:嶸影 4c23+f9ac.1 4c24:映暎楹榮永泳渶潁濚瀛瀯煐營獰 4c32+f9ad.1
    4c33:瑛 4c34+f9ae.1 4c35:瓔盈穎纓 4c39+f9af.2 4c3b:英詠迎 4c3e+f9b1.1 4c3f:鍈 4c40+f9b2.1
    4c41:霙 4c42+f9b3.2 4c44:乂倪 4c46+f9b5.1 4c47:刈叡曳汭濊猊睿穢芮藝蘂 4c52+f9b6.1 4c53:裔詣譽豫 4c57+f9b7.1
    4c58:銳 4c59+f9b8.1 4c5a:霓預五伍俉傲午吾吳嗚塢墺奧娛寤悟 4c6a+f9b9.1 4c6b:懊敖旿晤梧汚澳 4cd2:烏熬獒筽蜈誤鰲鼇屋沃獄玉鈺溫瑥瘟穩縕蘊兀壅
    4ce7:擁瓮甕癰翁邕雍饔渦瓦窩窪臥蛙蝸訛婉完宛梡椀浣玩琓琬碗緩翫脘腕莞豌阮頑曰往旺枉汪王倭娃歪矮外嵬巍猥畏 4d18+f9ba.2 4d1a:僥凹堯夭妖姚寥 4d21+f9bc.2
    4d23:嶢拗搖撓擾 4d28+f9be.1 4d29:曜 4d2a+f9bf.1 4d2b:橈 4d2c+f9c0.1 4d2d:燿瑤 4d2f+f9c1.1
    4d90:窈窯繇繞耀腰 4d96+f9c2.1 4d97:蟯要謠遙 4d9b+f9c3.1 4d9c:邀饒慾欲浴縟褥辱俑傭冗勇埇墉容庸慂榕涌湧溶熔瑢用甬聳茸蓉踊鎔鏞
    4dbb+f9c4.1 4dbc:于佑偶優又友右宇寓尤愚憂旴牛玗瑀盂祐禑禹紆羽芋藕虞迂遇郵釪隅雨雩勖彧旭昱栯煜稶郁頊云 4de6+f9c5.1 4de7:橒殞澐熉耘芸蕓
    4e4e:運隕雲韻蔚鬱亐熊雄元原員圓園垣媛嫄寃怨愿援沅洹湲源爰猿瑗苑袁轅遠 4e6e+f9c6.1 4e6f:院願鴛月越鉞位偉僞危圍委威尉慰暐渭爲瑋緯胃萎葦蔿蝟衛褘謂違韋魏乳侑儒兪
    4e92+f9c7.1 4e93:唯喩孺宥幼幽庾悠惟愈愉揄攸有 4ea1+f9c8.1 4ea2:柔柚 4ea4+f9c9.1 4ea5:楡楢油洧 4ea9+f9ca.1
    4eaa:游 4eab+f9cb.1 4f0c:濡猶猷 4f0f+f9cc.1 4f10:瑜由 4f12+f9cd.1 4f13:癒 4f14+f9ce.2 4f16:維臾萸裕誘諛諭踰
    4f1e:蹂遊逾遺酉釉鍮 4f25+f9d0.2 4f27:堉 4f28+f9d2.1 4f29:毓肉育 4f2c+f9d3.2 4f2e:允奫尹 4f31+f9d5.2
    4f33:潤玧胤贇 4f37+f9d7.1 4f38:鈗閏 4f3a+f9d8.4 4f3e:聿戎瀜絨融 4f43+f9dc.1 4f44:垠恩慇殷誾銀隱乙吟淫蔭陰音飮揖泣邑凝應膺鷹依
    4f5a:倚儀宜意懿擬椅毅疑矣義艤薏蟻衣誼 4fca:議醫二以伊 4fcf+f9dd.2 4fd1:夷姨 4fd3+f9df.1 4fd4:已弛彛怡 4fd8+f9e0.4
    4fdc:爾珥 4fde+f9e4.1 4fdf:異痍 4fe1+f9e5.1 4fe2:移 4fe3+f9e6.1 4fe4:而耳肄苡荑 4fe9+f9e7.2
    4feb:貽貳邇 4fee+f9e9.2 4ff0:飴餌 4ff2+f9eb.2 4ff4:瀷益翊翌翼謚人仁刃印 4ffe+f9ed.1 4fff:咽因姻寅引忍湮
    5006+f9ee.2 5008:絪茵 500a+f9f0.1 500b:蚓認 500d+f9f1.1 500e:靭靷 5010+f9f2.2 5012:一佚佾壹日溢逸鎰馹任壬妊姙恁
    5020+f9f4.2 5022:稔 5023+f9f6.1 5024:荏賃入卄 5088+f9f7.3 508b:仍剩孕芿仔刺咨姉姿子字孜恣慈滋炙煮玆瓷疵磁紫者自茨蔗藉諮資雌作勺嚼斫
    50ad:昨灼炸爵綽芍酌雀鵲孱棧殘潺盞岑暫潛箴簪蠶雜丈仗匠場墻壯奬將帳庄張掌暲杖樟檣欌漿牆 50d5+f9fa.1 50d6:獐璋章粧腸臟臧莊葬蔣薔藏裝贓醬長
    5146:障再哉在宰才材栽梓渽滓災縡裁財載齋齎爭箏諍錚佇低儲咀姐底抵杵楮樗沮渚狙猪疽箸紵苧菹著藷詛貯躇這邸雎齟勣吊嫡寂摘敵滴狄 5180+f9fb.1 5181:的積笛籍績翟荻謫賊赤跡
    518c:蹟迪迹適鏑佃佺傳全典前剪塡塼奠專展廛悛戰栓殿氈澱 5204:煎琠田甸畑癲筌箋箭篆纏詮輾轉鈿銓錢鐫電顚顫餞切截折浙癤竊節絶占岾店漸点粘霑鮎點接摺蝶丁井亭停偵呈姃定幀庭廷征情挺政
    523d:整旌晶晸柾楨檉正汀淀淨渟湞瀞炡玎珽町睛碇禎程穽精綎艇訂諪貞鄭酊釘鉦鋌錠霆靖 52c2:靜頂鼎制劑啼堤帝弟悌提梯濟祭第臍薺製諸蹄醍除際霽題齊俎兆凋助嘲弔彫措操早晁曺曹朝條棗槽漕
    52ee:潮照燥爪璪眺祖祚租稠窕粗糟組繰肇藻蚤詔調趙躁造遭釣阻雕鳥族簇足鏃存尊卒拙猝倧宗從悰慫棕淙琮種終綜縱腫 5380:踪踵鍾鐘佐坐左座挫罪主住侏做姝胄呪周嗾奏宙州廚晝朱柱株注洲湊澍
    539f:炷珠疇籌紂紬綢舟蛛註誅走躊輳週酎酒鑄駐竹粥俊儁准埈寯峻晙樽浚準濬焌畯竣蠢逡遵雋駿茁中仲衆重卽櫛楫汁葺增憎曾拯烝甑症繒蒸證贈之只 543e:咫地址志持指摯支旨智枝枳止池沚漬知砥
    5450:祉祗紙肢脂至芝芷蜘誌 545a+f9fc.1 545b:贄趾遲直稙稷織職唇嗔塵振搢晉晋桭榛殄津溱珍瑨璡畛疹盡眞瞋秦縉縝臻蔯袗診賑軫辰進鎭陣陳震侄叱姪嫉帙桎瓆疾秩窒膣蛭質跌迭斟
    5496:朕 5497+f9fd.1 5498:執潗緝輯 54fc:鏶集徵懲澄且侘借叉嗟嵯差次此磋箚 550c+f9fe.1 550d:蹉車遮捉搾着窄錯鑿齪撰澯燦璨瓚竄簒纂粲纘讚贊鑽餐
    5525:饌刹察擦札紮僭參塹慘慙懺斬站讒讖倉倡創唱娼廠彰愴敞昌昶暢槍滄漲猖瘡窓脹艙菖蒼債埰寀寨彩採砦綵菜蔡采釵冊柵策 55ba:責凄妻悽處倜 55c0+f9ff.1
    55c1:剔尺慽戚拓擲斥滌瘠脊蹠陟隻仟千喘天川擅泉淺玔穿舛薦賤踐遷釧闡阡韆凸哲喆徹撤澈綴輟轍鐵僉尖沾添甛瞻簽籤詹諂堞妾帖捷牒疊睫諜貼輒廳晴淸聽菁請靑鯖 5607+fa00.1
    5608:剃替涕滯締諦逮遞體初剿哨憔抄招梢 5678:椒楚樵炒焦硝礁礎秒稍肖艸苕草蕉貂超酢醋醮促囑燭矗蜀觸寸忖村邨叢塚寵悤憁摠總聰蔥銃撮催崔最墜抽推椎楸樞湫皺秋芻萩諏趨追鄒酋醜錐錘鎚雛
    56b9:騶鰍丑畜祝竺筑築縮蓄蹙蹴軸逐春椿瑃出朮黜充忠沖蟲衝衷悴膵萃 5736:贅取吹嘴娶就炊翠聚脆臭趣醉驟鷲側仄厠惻測層侈値嗤峙幟恥梔治淄熾痔痴癡稚穉緇緻置致蚩輜雉馳齒則勅飭親七柒漆
    576a:侵寢枕沈浸琛砧針鍼蟄秤稱快他咤唾墮妥惰打拖朶楕舵陀馱駝倬卓啄坼 5789+fa01.1 578a:托 578b+fa02.1 578c:擢晫柝濁濯琢琸託
    57f4:鐸呑嘆坦彈憚歎灘炭綻誕奪脫探眈耽貪塔搭榻宕帑湯 580b+fa03.1 580c:蕩兌台太怠態殆汰泰笞胎苔跆邰颱 581b+fa04.1 581c:擇澤撑攄兎吐土討慟桶
    5826+fa05.1 5827:痛筒統通堆槌腿褪退頹偸套妬投透鬪慝特闖坡婆巴把播擺杷波派爬琶破罷芭跛頗判坂板版瓣販辦鈑 58b2:阪八叭捌佩唄悖敗沛浿牌狽稗覇貝彭澎烹膨愎便偏扁片篇編
    58cc:翩遍鞭騙貶坪平枰萍評吠嬖幣廢弊斃肺蔽閉陛佈包匍匏咆哺圃布怖抛抱捕 58ec+fa06.1 58ed:泡浦疱砲胞脯苞葡蒲袍褒逋鋪飽鮑幅暴曝瀑爆 5901+fa07.1
    5902:俵剽彪慓杓標漂瓢票表豹飇飄驃 5970:品稟楓諷豊風馮彼披疲皮被避陂匹弼必泌珌畢疋筆苾馝乏逼下何厦夏廈昰河瑕荷蝦賀遐霞鰕壑學虐謔鶴寒恨悍旱汗漢澣瀚罕翰閑閒限韓割轄函含咸啣喊檻
    59b3:涵緘艦銜陷鹹合哈盒蛤閤闔陜亢伉姮嫦巷恒抗杭桁沆港缸肛航 5a2e+fa08.2 5a30:項亥偕咳垓奚孩害懈楷海瀣蟹解該諧邂駭骸劾核倖幸杏荇行享向嚮珦鄕響餉饗香噓墟虛許憲櫶獻
    5a5a:軒歇險驗奕爀赫革俔峴弦懸晛泫炫玄玹現眩睍絃絢縣舷衒 5a73+fa0a.1 5a74:賢鉉顯孑穴血頁嫌俠協夾峽挾浹狹脅脇莢鋏頰亨兄刑型 5aec:形泂滎瀅灐炯熒珩瑩荊螢衡逈邢
    5afa:鎣馨兮彗惠慧暳蕙蹊醯鞋乎互呼壕壺好岵弧戶扈昊晧毫浩淏湖滸澔濠濩灝狐琥瑚瓠皓祜糊縞胡芦葫蒿虎號蝴護豪鎬頀顥惑或酷婚昏混渾琿魂忽惚笏哄弘汞泓洪烘紅虹訌鴻化和嬅樺火畵
    5baa:禍禾花華話譁貨靴 5bb2+fa0b.1 5bb3:擴攫確碻穫丸喚奐宦幻患換歡晥桓渙煥環紈還驩鰥活滑猾豁闊凰幌徨恍惶愰慌晃晄榥況湟滉潢煌璜皇篁簧荒蝗遑隍黃匯回廻徊恢悔懷晦會檜
    5bf0:淮澮灰獪繪膾茴蛔誨賄劃獲宖橫鐄哮嚆孝效斅曉梟涍淆 5c68:爻肴酵驍侯候厚后吼喉嗅帿後朽煦珝逅勛勳塤壎焄熏燻薰訓暈薨喧暄煊萱卉喙毁彙徽揮暉煇諱輝麾休携烋畦虧恤譎鷸兇凶匈洶胸黑
    5ca1:昕欣炘痕吃屹紇訖欠欽歆吸恰洽翕興僖凞喜噫囍姬嬉希憙憘戱晞曦熙熹熺犧禧稀羲詰"

end PageExtract.Charset.Korean
