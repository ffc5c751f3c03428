/-!
# Simplified Chinese characters

What the grid of simplified Chinese holds apart from the ideographs in the order
of their code points, in the format of `Charset.Grid`.  A row has 190 cells.
-/

namespace PageExtract.Charset.Simplified

/-- Signs, letters, the common ideographs and private characters. -/
def commonTable : String :=
   "17c0+e4c6.60 1820+3000.1 1821:、。·ˉˇ¨〃々—～‖…‘’“”〔〕 1833+3008.8 183b:〖〗【】±×÷∶∧∨∑∏∪∩∈∷√⊥∥∠⌒⊙∫∮≡≌
    1855:≈∽∝≠≮≯≤≥∞∵∴♂♀°′″℃＄¤￠￡‰§№☆★○●◎◇◆□■△▲※→←↑↓〓 187e+e526.60 18de+2170.a 18e8+e766.6
    18ee+2488.14 1902+2474.14 1916+2460.a 1920:€ 1921+e76d.1 1922+3220.a 192c+e76e.2 192e+2160.c
    193a+e770.2 193c+e586.5f 199b+3000.1 199c:！＂＃￥ 19a0+ff05.59 19f9:￣ 19fa+e5e6.60 1a5a+3041.53
    1aad+e772.b 1ab8+e646.60 1b18+30a1.56 1b6e+e77d.8 1b76+e6a6.60 1bd6+391.11 1be7+3a3.7
    1bee+e785.8 1bf6+3b1.11 1c07+3c3.7 1c0e:︐︒︑︓︔︕︖︵︶︹︺︿﹀︽︾﹁﹂﹃﹄︗︘︻︼︷︸︱︙︳︴ 1c2b+e797.9
    1c34+e706.60 1c94+410.6 1c9a:Ё 1c9b+416.1a 1cb5+e7a0.f 1cc4+430.6 1cca:ё 1ccb+436.1a
    1ce5+e7af.d 1cf2:ˊˋ˙–―‥‵℅℉↖↗↘↙∕∟∣≒≦≧⊿ 1d06+2550.24 1d2a+2581.f 1d39:▓▔▕▼▽◢◣◤◥☉⊕〒〝〞
    1d47+e7bc.b 1d52:āáǎàēéěèīíǐìōóǒòūúǔùǖǘǚǜüêɑḿńňǹɡ 1d72+e7c9.4 1d76+3105.25 1d9b+e7cd.15
    1db0+3021.9 1db9:㊣㎎㎏㎜㎝㎞㎡㏄㏎㏑㏒㏕︰￢￤ 1dc8+e7e2.1 1dc9:℡㈱ 1dcb+e7e3.1 1dcc:‐ 1dcd+e7e4.3
    1dd0:ー゛゜ヽヾ〆ゝゞ 1dd8+fe49.a 1de2:﹔﹕﹖﹗ 1de6+fe59.e 1df4:﹨﹩﹪﹫〾 1df9+2ff0.c 1e05:〇 1e06+e7f4.d
    1e13+2500.4c 1e5f+e801.f 1ece+e000.5e 1f8c+e05e.5e 204a+e0bc.5e 2108+e11a.5e 21c6+e178.5e
    2284+e1d6.5e 2342:啊阿埃挨哎唉哀皑癌蔼矮艾碍爱隘鞍氨安俺按暗岸胺案肮昂盎凹敖熬翱袄傲奥懊澳芭捌扒叭吧笆八疤巴拔跋靶把耙坝霸罢爸白柏百摆佰败拜稗斑班搬扳般颁板版扮拌伴瓣
    238c:半办绊邦帮梆榜膀绑棒磅蚌镑傍谤苞胞包褒剥 2400:薄雹保堡饱宝抱报暴豹鲍爆杯碑悲卑北辈背贝钡倍狈备惫焙被奔苯本笨崩绷甭泵蹦迸逼鼻比鄙笔彼碧蓖蔽毕毙毖币庇痹闭敝弊必辟壁臂避陛
    243d:鞭边编贬扁便变卞辨辩辫遍标彪膘表鳖憋别瘪彬斌濒滨宾摈兵冰柄丙秉饼炳 24be:病并玻菠播拨钵波博勃搏铂箔伯帛舶脖膊渤泊驳捕卜哺补埠不布步簿部怖擦猜裁材才财睬踩采彩菜蔡餐参蚕残
    24ee:惭惨灿苍舱仓沧藏操糙槽曹草厕策侧册测层蹭插叉茬茶查碴搽察岔差诧拆柴豺搀掺蝉馋谗缠铲产阐颤昌猖 257c:场尝常长偿肠厂敞畅唱倡超抄钞朝嘲潮巢吵炒车扯撤掣彻澈郴臣辰尘晨忱沉陈趁
    259f:衬撑称城橙成呈乘程惩澄诚承逞骋秤吃痴持匙池迟弛驰耻齿侈尺赤翅斥炽充冲虫崇宠抽酬畴踌稠愁筹仇绸瞅丑臭初出橱厨躇锄雏滁除楚 263a:础储矗搐触处揣川穿椽传船喘串疮窗幢床闯创吹炊
    2650:捶锤垂春椿醇唇淳纯蠢戳绰疵茨磁雌辞慈瓷词此刺赐次聪葱囱匆从丛凑粗醋簇促蹿篡窜摧崔催脆瘁粹淬翠村存寸磋撮搓措挫错搭达答瘩打大呆歹傣戴带殆代贷袋待逮 26f8:怠耽担丹单郸掸胆旦
    2701:氮但惮淡诞弹蛋当挡党荡档刀捣蹈倒岛祷导到稻悼道盗德得的蹬灯登等瞪凳邓堤低滴迪敌笛狄涤翟嫡抵底地蒂第帝弟递缔颠掂滇碘点典靛垫电佃甸店惦奠淀殿碉叼雕凋刁掉吊钓调跌爹碟蝶迭谍叠
    27b6:丁盯叮钉顶鼎锭定订丢东冬董懂动栋侗恫冻洞兜抖斗陡豆逗痘都督毒犊独读堵睹赌杜镀肚度渡妒端短锻段断缎堆兑队对墩吨蹲敦顿囤钝盾遁掇哆多夺垛躲朵跺舵剁惰堕蛾峨鹅俄额讹娥恶厄扼遏鄂饿恩
    280d:而儿耳尔饵洱二 2874:贰发罚筏伐乏阀法珐藩帆番翻樊矾钒繁凡烦反返范贩犯饭泛坊芳方肪房防妨仿访纺放菲非啡飞肥匪诽吠肺废沸费芬酚吩氛分纷坟焚汾粉奋份忿愤粪丰封枫蜂峰锋风疯烽逢
    28be:冯缝讽奉凤佛否夫敷肤孵扶拂辐幅氟符伏俘服 2932:浮涪福袱弗甫抚辅俯釜斧脯腑府腐赴副覆赋复傅付阜父腹负富讣附妇缚咐噶嘎该改概钙盖溉干甘杆柑竿肝赶感秆敢赣冈刚钢缸肛纲岗港杠篙
    296f:皋高膏羔糕搞镐稿告哥歌搁戈鸽胳疙割革葛格蛤阁隔铬个各给根跟耕更庚羹 29f0:埂耿梗工攻功恭龚供躬公宫弓巩汞拱贡共钩勾沟苟狗垢构购够辜菇咕箍估沽孤姑鼓古蛊骨谷股故顾固雇刮瓜剐
    2a20:寡挂褂乖拐怪棺关官冠观管馆罐惯灌贯光广逛瑰规圭硅归龟闺轨鬼诡癸桂柜跪贵刽辊滚棍锅郭国果裹过哈 2aae:骸孩海氦亥害骇酣憨邯韩含涵寒函喊罕翰撼捍旱憾悍焊汗汉夯杭航壕嚎豪毫郝好
    2ad1:耗号浩呵喝荷菏核禾和何合盒貉阂河涸赫褐鹤贺嘿黑痕很狠恨哼亨横衡恒轰哄烘虹鸿洪宏弘红喉侯猴吼厚候后呼乎忽瑚壶葫胡蝴狐糊湖 2b6c:弧虎唬护互沪户花哗华猾滑画划化话槐徊怀淮坏欢
    2b82:环桓还缓换患唤痪豢焕涣宦幻荒慌黄磺蝗簧皇凰惶煌晃幌恍谎灰挥辉徽恢蛔回毁悔慧卉惠晦贿秽会烩汇讳诲绘荤昏婚魂浑混豁活伙火获或惑霍货祸击圾基机畸稽积箕 2c2a:肌饥迹激讥鸡姬绩缉
    2c33:吉极棘辑籍集及急疾汲即嫉级挤几脊己蓟技冀季伎祭剂悸济寄寂计记既忌际妓继纪嘉枷夹佳家加荚颊贾甲钾假稼价架驾嫁歼监坚尖笺间煎兼肩艰奸缄茧检柬碱硷拣捡简俭剪减荐槛鉴践贱见键箭件
    2ce8:健舰剑饯渐溅涧建僵姜将浆江疆蒋桨奖讲匠酱降蕉椒礁焦胶交郊浇骄娇嚼搅铰矫侥脚狡角饺缴绞剿教酵轿较叫窖揭接皆秸街阶截劫节桔杰捷睫竭洁结解姐戒藉芥界借介疥诫届巾筋斤金今津襟紧锦仅谨
    2d3f:进靳晋禁近烬浸 2da6:尽劲荆兢茎睛晶鲸京惊精粳经井警景颈静境敬镜径痉靖竟竞净炯窘揪究纠玖韭久灸九酒厩救旧臼舅咎就疚鞠拘狙疽居驹菊局咀矩举沮聚拒据巨具距踞锯俱句惧炬剧捐鹃娟
    2df0:倦眷卷绢撅攫抉掘倔爵觉决诀绝均菌钧军君峻 2e64:俊竣浚郡骏喀咖卡咯开揩楷凯慨刊堪勘坎砍看康慷糠扛抗亢炕考拷烤靠坷苛柯棵磕颗科壳咳可渴克刻客课肯啃垦恳坑吭空恐孔控抠口扣寇枯
    2ea1:哭窟苦酷库裤夸垮挎跨胯块筷侩快宽款匡筐狂框矿眶旷况亏盔岿窥葵奎魁傀 2f22:馈愧溃坤昆捆困括扩廓阔垃拉喇蜡腊辣啦莱来赖蓝婪栏拦篮阑兰澜谰揽览懒缆烂滥琅榔狼廊郎朗浪捞劳牢老佬
    2f52:姥酪烙涝勒乐雷镭蕾磊累儡垒擂肋类泪棱楞冷厘梨犁黎篱狸离漓理李里鲤礼莉荔吏栗丽厉励砾历利傈例俐 2fe0:痢立粒沥隶力璃哩俩联莲连镰廉怜涟帘敛脸链恋炼练粮凉梁粱良两辆量晾亮谅撩
    3003:聊僚疗燎寥辽潦了撂镣廖料列裂烈劣猎琳林磷霖临邻鳞淋凛赁吝拎玲菱零龄铃伶羚凌灵陵岭领另令溜琉榴硫馏留刘瘤流柳六龙聋咙笼窿 309e:隆垄拢陇楼娄搂篓漏陋芦卢颅庐炉掳卤虏鲁麓碌露
    30b4:路赂鹿潞禄录陆戮驴吕铝侣旅履屡缕虑氯律率滤绿峦挛孪滦卵乱掠略抡轮伦仑沦纶论萝螺罗逻锣箩骡裸落洛骆络妈麻玛码蚂马骂嘛吗埋买麦卖迈脉瞒馒蛮满蔓曼慢漫 315c:谩芒茫盲氓忙莽猫茅
    3165:锚毛矛铆卯茂冒帽貌贸么玫枚梅酶霉煤没眉媒镁每美昧寐妹媚门闷们萌蒙檬盟锰猛梦孟眯醚靡糜迷谜弥米秘觅泌蜜密幂棉眠绵冕免勉娩缅面苗描瞄藐秒渺庙妙蔑灭民抿皿敏悯闽明螟鸣铭名命谬摸
    321a:摹蘑模膜磨摩魔抹末莫墨默沫漠寞陌谋牟某拇牡亩姆母墓暮幕募慕木目睦牧穆拿哪呐钠那娜纳氖乃奶耐奈南男难囊挠脑恼闹淖呢馁内嫩能妮霓倪泥尼拟你匿腻逆溺蔫拈年碾撵捻念娘酿鸟尿捏聂孽啮镊
    3271:镍涅您柠狞凝宁 32d8:拧泞牛扭钮纽脓浓农弄奴努怒女暖虐疟挪懦糯诺哦欧鸥殴藕呕偶沤啪趴爬帕怕琶拍排牌徘湃派攀潘盘磐盼畔判叛乓庞旁耪胖抛咆刨炮袍跑泡呸胚培裴赔陪配佩沛喷盆砰抨
    3322:烹澎彭蓬棚硼篷膨朋鹏捧碰坯砒霹批披劈琵毗 3396:啤脾疲皮匹痞僻屁譬篇偏片骗飘漂瓢票撇瞥拼频贫品聘乒坪苹萍平凭瓶评屏坡泼颇婆破魄迫粕剖扑铺仆莆葡菩蒲埔朴圃普浦谱曝瀑期欺栖戚
    33d3:妻七凄漆柒沏其棋奇歧畦崎脐齐旗祈祁骑起岂乞企启契砌器气迄弃汽泣讫掐 3454:恰洽牵扦钎铅千迁签仟谦乾黔钱钳前潜遣浅谴堑嵌欠歉枪呛腔羌墙蔷强抢橇锹敲悄桥瞧乔侨巧鞘撬翘峭俏窍切
    3484:茄且怯窃钦侵亲秦琴勤芹擒禽寝沁青轻氢倾卿清擎晴氰情顷请庆琼穷秋丘邱球求囚酋泅趋区蛆曲躯屈驱渠 3512:取娶龋趣去圈颧权醛泉全痊拳犬券劝缺炔瘸却鹊榷确雀裙群然燃冉染瓤壤攘嚷让
    3535:饶扰绕惹热壬仁人忍韧任认刃妊纫扔仍日戎茸蓉荣融熔溶容绒冗揉柔肉茹蠕儒孺如辱乳汝入褥软阮蕊瑞锐闰润若弱撒洒萨腮鳃塞赛三叁 35d0:伞散桑嗓丧搔骚扫嫂瑟色涩森僧莎砂杀刹沙纱傻啥
    35e6:煞筛晒珊苫杉山删煽衫闪陕擅赡膳善汕扇缮墒伤商赏晌上尚裳梢捎稍烧芍勺韶少哨邵绍奢赊蛇舌舍赦摄射慑涉社设砷申呻伸身深娠绅神沈审婶甚肾慎渗声生甥牲升绳 368e:省盛剩胜圣师失狮施
    3697:湿诗尸虱十石拾时什食蚀实识史矢使屎驶始式示士世柿事拭誓逝势是嗜噬适仕侍释饰氏市恃室视试收手首守寿授售受瘦兽蔬枢梳殊抒输叔舒淑疏书赎孰熟薯暑曙署蜀黍鼠属术述树束戍竖墅庶数漱
    374c:恕刷耍摔衰甩帅栓拴霜双爽谁水睡税吮瞬顺舜说硕朔烁斯撕嘶思私司丝死肆寺嗣四伺似饲巳松耸怂颂送宋讼诵搜艘擞嗽苏酥俗素速粟僳塑溯宿诉肃酸蒜算虽隋随绥髓碎岁穗遂隧祟孙损笋蓑梭唆缩琐索
    37a3:锁所塌他它她塔 380a:獭挞蹋踏胎苔抬台泰酞太态汰坍摊贪瘫滩坛檀痰潭谭谈坦毯袒碳探叹炭汤塘搪堂棠膛唐糖倘躺淌趟烫掏涛滔绦萄桃逃淘陶讨套特藤腾疼誊梯剔踢锑提题蹄啼体替嚏惕涕剃
    3854:屉天添填田甜恬舔腆挑条迢眺跳贴铁帖厅听烃 38c8:汀廷停亭庭挺艇通桐酮瞳同铜彤童桶捅筒统痛偷投头透凸秃突图徒途涂屠土吐兔湍团推颓腿蜕褪退吞屯臀拖托脱鸵陀驮驼椭妥拓唾挖哇蛙洼
    3905:娃瓦袜歪外豌弯湾玩顽丸烷完碗挽晚皖惋宛婉万腕汪王亡枉网往旺望忘妄威 3986:巍微危韦违桅围唯惟为潍维苇萎委伟伪尾纬未蔚味畏胃喂魏位渭谓尉慰卫瘟温蚊文闻纹吻稳紊问嗡翁瓮挝蜗涡
    39b6:窝我斡卧握沃巫呜钨乌污诬屋无芜梧吾吴毋武五捂午舞伍侮坞戊雾晤物勿务悟误昔熙析西硒矽晰嘻吸锡牺 3a44:稀息希悉膝夕惜熄烯溪汐犀檄袭席习媳喜铣洗系隙戏细瞎虾匣霞辖暇峡侠狭下厦
    3a67:夏吓掀锨先仙鲜纤咸贤衔舷闲涎弦嫌显险现献县腺馅羡宪陷限线相厢镶香箱襄湘乡翔祥详想响享项巷橡像向象萧硝霄削哮嚣销消宵淆晓 3b02:小孝校肖啸笑效楔些歇蝎鞋协挟携邪斜胁谐写械卸
    3b18:蟹懈泄泻谢屑薪芯锌欣辛新忻心信衅星腥猩惺兴刑型形邢行醒幸杏性姓兄凶胸匈汹雄熊休修羞朽嗅锈秀袖绣墟戌需虚嘘须徐许蓄酗叙旭序畜恤絮婿绪续轩喧宣悬旋玄 3bc0:选癣眩绚靴薛学穴雪
    3bc9:血勋熏循旬询寻驯巡殉汛训讯逊迅压押鸦鸭呀丫芽牙蚜崖衙涯雅哑亚讶焉咽阉烟淹盐严研蜒岩延言颜阎炎沿奄掩眼衍演艳堰燕厌砚雁唁彦焰宴谚验殃央鸯秧杨扬佯疡羊洋阳氧仰痒养样漾邀腰妖瑶
    3c7e:摇尧遥窑谣姚咬舀药要耀椰噎耶爷野冶也页掖业叶曳腋夜液一壹医揖铱依伊衣颐夷遗移仪胰疑沂宜姨彝椅蚁倚已乙矣以艺抑易邑屹亿役臆逸肄疫亦裔意毅忆义益溢诣议谊译异翼翌绎茵荫因殷音阴姻吟
    3cd5:银淫寅饮尹引隐 3d3c:印英樱婴鹰应缨莹萤营荧蝇迎赢盈影颖硬映哟拥佣臃痈庸雍踊蛹咏泳涌永恿勇用幽优悠忧尤由邮铀犹油游酉有友右佑釉诱又幼迂淤于盂榆虞愚舆余俞逾鱼愉渝渔隅予娱雨
    3d86:与屿禹宇语羽玉域芋郁吁遇喻峪御愈欲狱育誉 3dfa:浴寓裕预豫驭鸳渊冤元垣袁原援辕园员圆猿源缘远苑愿怨院曰约越跃钥岳粤月悦阅耘云郧匀陨允运蕴酝晕韵孕匝砸杂栽哉灾宰载再在咱攒暂
    3e37:赞赃脏葬遭糟凿藻枣早澡蚤躁噪造皂灶燥责择则泽贼怎增憎曾赠扎喳渣札轧 3eb8:铡闸眨栅榨咋乍炸诈摘斋宅窄债寨瞻毡詹粘沾盏斩辗崭展蘸栈占战站湛绽樟章彰漳张掌涨杖丈帐账仗胀瘴障招
    3ee8:昭找沼赵照罩兆肇召遮折哲蛰辙者锗蔗这浙珍斟真甄砧臻贞针侦枕疹诊震振镇阵蒸挣睁征狰争怔整拯正政 3f76:帧症郑证芝枝支吱蜘知肢脂汁之织职直植殖执值侄址指止趾只旨纸志挚掷至致置
    3f99:帜峙制智秩稚质炙痔滞治窒中盅忠钟衷终种肿重仲众舟周州洲诌粥轴肘帚咒皱宙昼骤珠株蛛朱猪诸诛逐竹烛煮拄瞩嘱主著柱助蛀贮铸筑 4034:住注祝驻抓爪拽专砖转撰赚篆桩庄装妆撞壮状椎锥
    404a:追赘坠缀谆准捉拙卓桌琢茁酌啄着灼浊兹咨资姿滋淄孜紫仔籽滓子自渍字鬃棕踪宗综总纵邹走奏揍租足卒族祖诅阻组钻纂嘴醉最罪尊遵昨左佐柞做作坐座 408d+e810.5
    40f2:亍丌兀丐廿卅丕亘丞鬲孬噩丨禺丿匕乇夭爻卮氐囟胤馗毓睾鼗丶亟鼐乜乩亓芈孛啬嘏仄厍厝厣厥厮靥赝匚叵匦匮匾赜卦卣刂刈刎刭刳刿剀剌剞剡剜蒯剽劂劁劐劓冂罔亻仃仉仂仨仡仫仞伛仳伢佤仵伥伧
    4149:伉伫佞佧攸佚佝 41b0:佟佗伲伽佶佴侑侉侃侏佾佻侪佼侬侔俦俨俪俅俚俣俜俑俟俸倩偌俳倬倏倮倭俾倜倌倥倨偾偃偕偈偎偬偻傥傧傩傺僖儆僭僬僦僮儇儋仝氽佘佥俎龠汆籴兮巽黉馘冁夔勹匍訇
    41fa:匐凫夙兕亠兖亳衮袤亵脔裒禀嬴蠃羸冫冱冽冼 426e:凇冖冢冥讠讦讧讪讴讵讷诂诃诋诏诎诒诓诔诖诘诙诜诟诠诤诨诩诮诰诳诶诹诼诿谀谂谄谇谌谏谑谒谔谕谖谙谛谘谝谟谠谡谥谧谪谫谮谯谲谳
    42ab:谵谶卩卺阝阢阡阱阪阽阼陂陉陔陟陧陬陲陴隈隍隗隰邗邛邝邙邬邡邴邳邶邺 432c:邸邰郏郅邾郐郄郇郓郦郢郜郗郛郫郯郾鄄鄢鄞鄣鄱鄯鄹酃酆刍奂劢劬劭劾哿勐勖勰叟燮矍廴凵凼鬯厶弁畚巯坌
    435c:垩垡塾墼壅壑圩圬圪圳圹圮圯坜圻坂坩垅坫垆坼坻坨坭坶坳垭垤垌垲埏垧垴垓垠埕埘埚埙埒垸埴埯埸埤埝 43ea:堋堍埽埭堀堞堙塄堠塥塬墁墉墚墀馨鼙懿艹艽艿芏芊芨芄芎芑芗芙芫芸芾芰苈苊
    440d:苣芘芷芮苋苌苁芩芴芡芪芟苄苎芤苡茉苷苤茏茇苜苴苒苘茌苻苓茑茚茆茔茕苠苕茜荑荛荜茈莒茼茴茱莛荞茯荏荇荃荟荀茗荠茭茺茳荦荥 44a8:荨茛荩荬荪荭荮莰荸莳莴莠莪莓莜莅荼莶莩荽莸荻
    44be:莘莞莨莺莼菁萁菥菘堇萘萋菝菽菖萜萸萑萆菔菟萏萃菸菹菪菅菀萦菰菡葜葑葚葙葳蒇蒈葺蒉葸萼葆葩葶蒌蒎萱葭蓁蓍蓐蓦蒽蓓蓊蒿蒺蓠蒡蒹蒴蒗蓥蓣蔌甍蔸蓰蔹蔟蔺 4566:蕖蔻蓿蓼蕙蕈蕨蕤蕞
    456f:蕺瞢蕃蕲蕻薤薨薇薏蕹薮薜薅薹薷薰藓藁藜藿蘧蘅蘩蘖蘼廾弈夼奁耷奕奚奘匏尢尥尬尴扌扪抟抻拊拚拗拮挢拶挹捋捃掭揶捱捺掎掴捭掬掊捩掮掼揲揸揠揿揄揞揎摒揆掾摅摁搋搛搠搌搦搡摞撄摭撖
    4624:摺撷撸撙撺擀擐擗擤擢攉攥攮弋忒甙弑卟叱叽叩叨叻吒吖吆呋呒呓呔呖呃吡呗呙吣吲咂咔呷呱呤咚咛咄呶呦咝哐咭哂咴哒咧咦哓哔呲咣哕咻咿哌哙哚哜咩咪咤哝哏哞唛哧唠哽唔哳唢唣唏唑唧唪啧喏喵
    467b:啉啭啁啕唿啐唼 46e2:唷啖啵啶啷唳唰啜喋嗒喃喱喹喈喁喟啾嗖喑啻嗟喽喾喔喙嗪嗷嗉嘟嗑嗫嗬嗔嗦嗝嗄嗯嗥嗲嗳嗌嗍嗨嗵嗤辔嘞嘈嘌嘁嘤嘣嗾嘀嘧嘭噘嘹噗嘬噍噢噙噜噌噔嚆噤噱噫噻噼嚅嚓
    472c:嚯囔囗囝囡囵囫囹囿圄圊圉圜帏帙帔帑帱帻帼 47a0:帷幄幔幛幞幡岌屺岍岐岖岈岘岙岑岚岜岵岢岽岬岫岱岣峁岷峄峒峤峋峥崂崃崧崦崮崤崞崆崛嵘崾崴崽嵬嵛嵯嵝嵫嵋嵊嵩嵴嶂嶙嶝豳嶷巅彳彷
    47dd:徂徇徉後徕徙徜徨徭徵徼衢彡犭犰犴犷犸狃狁狎狍狒狨狯狩狲狴狷猁狳猃狺 485e:狻猗猓猡猊猞猝猕猢猹猥猬猸猱獐獍獗獠獬獯獾舛夥飧夤夂饣 4879+9967.6
    487f:饴饷饽馀馄馇馊馍馐馑馓馔馕庀庑庋庖庥庠庹庵庾庳赓廒廑廛廨廪膺忄忉忖忏怃忮怄忡忤忾怅怆忪忭忸怙怵怦怛怏怍怩怫怊怿怡恸恹恻恺恂 491c:恪恽悖悚悭悝悃悒悌悛惬悻悱惝惘惆惚悴愠愦
    4930:愕愣惴愀愎愫慊慵憬憔憧憷懔懵忝隳闩闫闱闳闵闶闼闾阃阄阆阈阊阋阌阍阏阒阕阖阗阙阚丬爿戕氵汔汜汊沣沅沐沔沌汨汩汴汶沆沩泐泔沭泷泸泱泗沲泠泖泺泫泮沱泓泯泾
    49da:洹洧洌浃浈洇洄洙洎洫浍洮洵洚浏浒浔洳涑浯涞涠浞涓涔浜浠浼浣渚淇淅淞渎涿淠渑淦淝淙渖涫渌涮渫湮湎湫溲湟溆湓湔渲渥湄滟溱溘滠漭滢溥溧溽溻溷滗溴滏溏滂溟潢潆潇漤漕滹漯漶潋潴漪漉漩澉
    4a31:澍澌潸潲潼潺濑 4a98:濉澧澹澶濂濡濮濞濠濯瀚瀣瀛瀹瀵灏灞宀宄宕宓宥宸甯骞搴寤寮褰寰蹇謇辶迓迕迥迮迤迩迦迳迨逅逄逋逦逑逍逖逡逵逶逭逯遄遑遒遐遨遘遢遛暹遴遽邂邈邃邋彐彗彖彘尻
    4ae2:咫屐屙孱屣屦羼弪弩弭艴弼鬻屮妁妃妍妩妪妣 4b56:妗姊妫妞妤姒妲妯姗妾娅娆姝娈姣姘姹娌娉娲娴娑娣娓婀婧婊婕娼婢婵胬媪媛婷婺媾嫫媲嫒嫔媸嫠嫣嫱嫖嫦嫘嫜嬉嬗嬖嬲嬷孀尕尜孚孥孳孑
    4b93:孓孢驵驷驸驺驿驽骀骁骅骈骊骐骒骓骖骘骛骜骝骟骠骢骣骥骧纟纡纣纥纨纩 4c14:纭纰纾绀绁绂绉绋绌绐绔绗绛绠绡绨绫绮绯绱绲缍绶绺绻绾缁缂缃缇缈缋缌缏缑缒缗缙缜缛缟
    4c3d+7f21.7 4c44:缪缫缬缭缯缰缱缲缳缵幺畿巛甾邕玎玑玮玢玟珏珂珑玷玳珀珉珈珥珙顼琊珩珧珞玺珲琏琪瑛琦琥琨琰琮琬 4cd2:琛琚瑁瑜瑗瑕瑙瑷瑭瑾璜璎璀璁璇璋璞璨璩璐璧瓒璺
    4ce9:韪韫韬杌杓杞杈杩枥枇杪杳枘枧杵枨枞枭枋杷杼柰栉柘栊柩枰栌柙枵柚枳柝栀柃枸柢栎柁柽栲栳桠桡桎桢桄桤梃栝桕桦桁桧桀栾桊桉栩梵梏桴桷梓桫棂楮棼椟椠棹 4d90:椤棰椋椁楗棣椐楱椹楠
    4d9a:楂楝榄楫榀榘楸椴槌榇榈槎榉楦楣楹榛榧榻榫榭槔榱槁槊槟榕槠榍槿樯槭樗樘橥槲橄樾檠橐橛樵檎橹樽樨橘橼檑檐檩檗檫猷獒殁殂殇殄殒殓殍殚殛殡殪轫轭轱轲轳轵轶轸轷轹轺轼轾辁辂辄辇辋
    4e4e:辍辎辏辘辚軎戋戗戛戟戢戡戥戤戬臧瓯瓴瓿甏甑甓攴旮旯旰昊昙杲昃昕昀炅曷昝昴昱昶昵耆晟晔晁晏晖晡晗晷暄暌暧暝暾曛曜曦曩贲贳贶贻贽赀赅赆赈赉赇赍赕赙觇觊觋觌觎觏觐觑牮犟牝牦牯牾牿犄
    4ea5:犋犍犏犒挈挲掰 4f0c:搿擘耄毪毳毽毵毹氅氇氆氍氕氘氙氚氡氩氤氪氲攵敕敫牍牒牖爰虢刖肟肜肓肼朊肽肱肫肭肴肷胧胨胩胪胛胂胄胙胍胗朐胝胫胱胴胭脍脎胲胼朕脒豚脶脞脬脘脲腈腌腓腴腙
    4f56:腚腱腠腩腼腽腭腧塍媵膈膂膑滕膣膪臌朦臊膻 4fca:臁膦欤欷欹歃歆歙飑飒飓飕飙飚殳彀毂觳斐齑斓於旆旄旃旌旎旒旖炀炜炖炝炻烀炷炫炱烨烊焐焓焖焯焱煳煜煨煅煲煊煸煺熘熳熵熨熠燠燔燧
    5007:燹爝爨灬焘煦熹戾戽扃扈扉礻祀祆祉祛祜祓祚祢祗祠祯祧祺禅禊禚禧禳忑忐 5088:怼恝恚恧恁恙恣悫愆愍慝憩憝懋懑戆肀聿沓泶淼矶矸砀砉砗砘砑斫砭砜砝砹砺砻砟砼砥砬砣砩硎硭硖硗砦硐硇
    50b8:硌硪碛碓碚碇碜碡碣碲碹碥磔磙磉磬磲礅磴礓礤礞礴龛黹黻黼盱眄眍盹眇眈眚眢眙眭眦眵眸睐睑睇睃睚睨 5146:睢睥睿瞍睽瞀瞌瞑瞟瞠瞰瞵瞽町畀畎畋畈畛畲畹疃罘罡罟詈罨罴罱罹羁罾盍盥蠲
    5169:钅钆钇钋钊钌钍钏钐钔钗钕钚钛钜钣钤钫钪钭钬钯钰钲钴钶钷钸钹钺钼钽钿铄 518b+94c8.7 5192:铐铑铒铕铖铗铙铘铛铞铟铠铢铤铥铧铨铪 5204:铩铫铮铯铳铴铵铷铹铼铽
    520f:铿锃锂锆锇锉锊锍锎锏锒锓锔锕锖锘锛锝锞锟锢锪锫锩锬锱锲锴锶锷锸锼锾锿镂锵镄镅镆镉镌镎镏镒镓镔镖镗镘镙镛镞镟镝镡镢 5247+9564.9 5250:镯镱镲镳锺矧矬雉秕秭秣秫稆
    525d:嵇稃稂稞稔 52c2:稹稷穑黏馥穰皈皎皓皙皤瓞瓠甬鸠鸢鸨鸩鸪鸫鸬鸲鸱鸶鸸鸷鸹鸺鸾鹁鹂鹄鹆鹇鹈鹉鹋鹌鹎鹑鹕鹗鹚鹛鹜鹞鹣 52f1+9e66.7 52f8:鹱鹭鹳疒疔疖疠疝疬疣疳
    5303:疴疸痄疱疰痃痂痖痍痣痨痦痤痫痧瘃痱痼痿瘐瘀瘅瘌瘗瘊瘥瘘瘕瘙 5380:瘛瘼瘢瘠癀瘭瘰瘿瘵癃瘾瘳癍癞癔癜癖癫癯翊竦穸穹窀窆窈窕窦窠窬窨窭窳衤衩衲衽衿袂袢裆袷袼裉裢裎裣裥裱褚裼裨
    53b4:裾裰褡褙褓褛褊褴褫褶襁襦襻疋胥皲皴矜耒耔耖耜耠耢耥耦耧耩耨耱耋耵聃聆聍聒聩聱覃顸颀颃 543e:颉颌颍颏颔颚颛颞颟颡颢颥颦虍虔虬虮虿虺虼虻蚨蚍蚋蚬蚝蚧蚣蚪蚓蚩蚶蛄蚵蛎蚰蚺蚱蚯
    5465:蛉蛏蚴蛩蛱蛲蛭蛳蛐蜓蛞蛴蛟蛘蛑蜃蜇蛸蜈蜊蜍蜉蜣蜻蜞蜥蜮蜚蜾蝈蜴蜱蜩蜷蜿螂蜢蝽蝾蝻蝠蝰蝌蝮螋蝓蝣蝼蝤蝙蝥螓螯螨蟒 54fc:蟆螈螅螭螗螃螫蟥螬螵螳蟋蟓螽蟑蟀蟊蟛蟪蟠蟮蠖蠓蟾蠊蠛
    5516:蠡蠹蠼缶罂罄罅舐竺竽笈笃笄笕笊笫笏筇笸笪笙笮笱笠笥笤笳笾笞筘筚筅筵筌筝筠筮筻筢筲筱箐箦箧箸箬箝箨箅箪箜箢箫箴篑篁篌篝篚篥篦篪簌篾篼簏簖簋 55ba:簟簪簦簸籁籀臾舁舂舄臬衄舡
    55c7:舢舣舭舯舨舫舸舻舳舴舾艄艉艋艏艚艟艨衾袅袈裘裟襞羝羟羧羯羰羲籼敉粑粝粜粞粢粲粼粽糁糇糌糍糈糅糗糨艮暨羿翎翕翥翡翦翩翮翳糸絷綦綮繇纛麸麴赳趄趔趑趱赧赭豇豉酊酐酎酏酤
    5678:酢酡酰酩酯酽酾酲酴酹醌醅醐醍醑醢醣醪醭醮醯醵醴醺豕鹾趸跫踅蹙蹩趵趿趼趺跄跖跗跚跞跎跏跛跆跬跷跸跣跹跻跤踉跽踔踝踟踬踮踣踯踺蹀踹踵踽踱蹉蹁蹂蹑蹒蹊蹰蹶蹼蹯蹴躅躏躔躐躜躞豸貂貊貅
    56cf:貘貔斛觖觞觚觜 5736:觥觫觯訾謦靓雩雳雯霆霁霈霏霎霪霭霰霾龀龃 574a+9f85.6 5750:龌黾鼋鼍隹隼隽雎雒瞿雠銎銮鋈錾鍪鏊鎏鐾鑫鱿鲂鲅鲆鲇鲈稣鲋鲎鲐鲑鲒鲔鲕鲚鲛
    5774+9c9e.6 577a:鲥鲦鲧鲨鲩鲫鲭鲮 5782+9cb0.8 578a:鲺鲻鲼鲽鳄鳅鳆鳇鳊鳋 57f4:鳌鳍鳎鳏鳐鳓鳔鳕鳗鳘鳙鳜鳝鳟鳢靼鞅鞑鞒鞔鞯鞫鞣鞲鞴骱骰骷鹘骶骺骼髁
    5815:髀髅髂髋髌髑魅魃魇魉魈魍魑飨餍餮饕饔髟髡髦髯髫髻髭髹鬈鬏鬓鬟鬣麽麾縻麂麇麈麋麒鏖麝麟黛黜黝黠黟黢黩黧黥黪黯鼢鼬鼯鼹鼷鼽鼾齄 58b2+e234.5e 5970+e292.5e
    5a2e+e2f0.5e 5aec+e34e.5e 5baa+e3ac.5e 5c68+e40a.5e 5d26+e468.5e"

/-- The characters of four bytes, in the order of these bytes. -/
def fourByteTable : String :=
   "0+80.24 24+a5.2 26+a9.7 2d+b2.5 32+b8.1f 51+d8.8 59+e2.6 5f+eb.1 60+ee.4 64+f4.3 67+f8.1
    68+fb.1 69+fd.4 6d+102.11 7e+114.7 85+11c.f 94+12c.18 ac+145.3 af+149.4 b3+14e.1d d0+16c.62
    132+1cf.1 133+1d1.1 134+1d3.1 135+1d5.1 136+1d7.1 137+1d9.1 138+1db.1 139+1dd.1c 155+1fa.57
    1ac+252.f 1bb+262.65 220+2c8.1 221+2cc.d 22e+2da.b7 2e5+3a2.1 2e6+3aa.7 2ed+3c2.1 2ee+3ca.37
    325+402.e 333+450.1 334+452.19ed 1d21+e7c7.1 1d22+1e40.1d0 1ef2+2011.2 1ef4+2017.1
    1ef5+201a.2 1ef7+201e.7 1efe+2027.9 1f07+2031.1 1f08+2034.1 1f09+2036.5 1f0e+203c.70
    1f7e+20ad.56 1fd4+2104.1 1fd5+2106.3 1fd8+210a.c 1fe4+2117.a 1fee+2122.3e 202c+216c.4
    2030+217a.16 2046+2194.2 2048+219a.6e 20b6+2209.6 20bc+2210.1 20bd+2212.3 20c0+2216.4
    20c4+221b.2 20c6+2221.2 20c8+2224.1 20c9+2226.1 20ca+222c.2 20cc+222f.5 20d1+2238.5
    20d6+223e.a 20e0+2249.3 20e3+224d.5 20e8+2253.d 20f5+2262.2 20f7+2268.6 20fd+2270.25
    2122+2296.3 2125+229a.b 2130+22a6.19 2149+22c0.52 219b+2313.14d 22e8+246a.a 22f2+249c.64
    2356+254c.4 235a+2574.d 2367+2590.3 236a+2596.a 2374+25a2.10 2384+25b4.8 238c+25be.8
    2394+25c8.3 2397+25cc.2 2399+25d0.12 23ab+25e6.1f 23ca+2607.2 23cc+260a.36 2402+2641.1
    2403+2643.83e 2c41+2e82.2 2c43+2e85.3 2c46+2e89.2 2c48+2e8d.a 2c52+2e98.f 2c61+2ea8.2
    2c63+2eab.3 2c66+2eaf.4 2c6a+2eb4.2 2c6c+2eb8.3 2c6f+2ebc.e 2c7d+2ecb.125 2da2+2ffc.4
    2da6+3004.1 2da7+3018.5 2dac+301f.2 2dae+302a.14 2dc2+303f.2 2dc4+3094.7 2dcb+309f.2
    2dcd+30f7.5 2dd2+30ff.6 2dd8+312a.f6 2ece+322a.7 2ed5+3232.71 2f46+32a4.ea 3030+3390.c
    303c+339f.2 303e+33a2.22 3060+33c5.9 3069+33cf.2 306b+33d3.2 306d+33d6.71 30de+3448.2b
    3109+3474.12a 3233+359f.6f 32a2+360f.b 32ad+361b.2fd 35aa+3919.55 35ff+396f.60 365f+39d1.e
    366d+39e0.93 3700+3a74.da 37da+3b4f.11f 38f9+3c6f.71 396a+3ce1.375 3cdf+4057.108
    3de7+4160.1d7 3fbe+4338.74 4032+43ad.4 4036+43b2.2b 4061+43de.f8 4159+44d7.175 42ce+464d.14
    42e2+4662.c1 43a3+4724.5 43a8+472a.52 43fa+477d.10 440a+478e.1b9 45c3+4948.32 45f5+497b.2
    45f7+497e.4 45fb+4984.1 45fc+4987.14 4610+499c.3 4613+49a0.16 4629+49b8.2bf 48e8+4c78.27
    490f+4ca4.6f 497e+4d1a.94 4a12+4daf.51 4a63+9fa6.385a 82bd+e76c.1 82be+e7c8.1 82bf+e7e7.d
    82cc+e815.1 82cd+e819.5 82d2+e81f.7 82d9+e827.4 82dd+e82d.4 82e1+e833.8 82e9+e83c.7
    82f0+e844.10 8300+e856.e 830e+e865.10c7 93d5+f92d.4c 9421+f97a.1b 943c+f996.51 948d+f9e8.9
    9496+f9f2.1a 94b0+fa10.1 94b1+fa12.1 94b2+fa15.3 94b5+fa19.6 94bb+fa22.1 94bc+fa25.2
    94be+fa2a.406 98c4+fe32.1 98c5+fe45.4 98c9+fe53.1 98ca+fe58.1 98cb+fe67.1 98cc+fe6c.95
    9961+ff5f.81 99e2+ffe6.1a"

/-- The ideographs that come after those in the order of their code points. -/
def lastTable : String :=
   "0+f92c.1 1+f979.1 2+f995.1 3+f9e7.1 4+f9f1.1 5+fa0c.4 9+fa11.1 a+fa13.2 c+fa18.1 d+fa1f.3
    10+fa23.2 12+fa27.3 15:⺁ 16+e816.3 19:⺄㑳㑇⺈⺋龴㖞㘚㘎⺌⺗㥮㤘龵㧏㧟㩳㧐龶龷㭎㱮㳠⺧ 31+e831.1 32:龸⺪䁖䅟⺮䌷⺳⺶⺷
    3b+e83b.1 3c:䎱䎬⺻䏝䓖䙡䙌龹䜣䜩䝼䞍⻊䥇䥺䥽䦂䦃䦅䦆䦟䦛䦷䦶龺 55+e855.1 56:䲣䲟䲠䲡䱷䲢 5c+4d13.7 63:䶮龻"

end PageExtract.Charset.Simplified
