/-!
# Composite letters

Letters that stand for a letter and a mark.
-/

namespace Marginalia.Text

/-- Composite letters, each with its letter and its mark behind it. -/
def compositeText : List String :=
  ["ÀÀÁÁÂÂÃÃÄÄÅÅÇÇÈÈÉÉÊÊËËÌÌÍÍÎÎÏÏÑÑÒÒÓÓÔÔÕÕÖÖÙÙÚÚÛÛÜÜÝÝ",
    "ààááââããääååççèèééêêëëììííîîïïññòòóóôôõõööùùúúûûüüýý",
    "ÿÿĀĀāāĂĂăăĄĄąąĆĆććĈĈĉĉĊĊċċČČččĎĎďďĒĒēēĔĔĕĕĖĖėėĘĘęęĚĚ",
    "ěěĜĜĝĝĞĞğğĠĠġġĢĢģģĤĤĥĥĨĨĩĩĪĪīīĬĬĭĭĮĮįįİİĴĴĵĵĶĶķķĹĹĺĺ",
    "ĻĻļļĽĽľľŃŃńńŅŅņņŇŇňňŌŌōōŎŎŏŏŐŐőőŔŔŕŕŖŖŗŗŘŘřřŚŚśśŜŜŝŝ",
    "ŞŞşşŠŠššŢŢţţŤŤťťŨŨũũŪŪūūŬŬŭŭŮŮůůŰŰűűŲŲųųŴŴŵŵŶŶŷŷŸŸŹŹ",
    "źźŻŻżżŽŽžžƠƠơơƯƯưưǍǍǎǎǏǏǐǐǑǑǒǒǓǓǔǔǕǕǖǖǗǗǘǘǙǙǚǚǛǛǜǜǞǞ",
    "ǟǟǠǠǡǡǢǢǣǣǦǦǧǧǨǨǩǩǪǪǫǫǬǬǭǭǮǮǯǯǰǰǴǴǵǵǸǸǹǹǺǺǻǻǼǼǽǽǾǾǿǿ",
    "ȀȀȁȁȂȂȃȃȄȄȅȅȆȆȇȇȈȈȉȉȊȊȋȋȌȌȍȍȎȎȏȏȐȐȑȑȒȒȓȓȔȔȕȕȖȖȗȗȘȘșș",
    "ȚȚțțȞȞȟȟȦȦȧȧȨȨȩȩȪȪȫȫȬȬȭȭȮȮȯȯȰȰȱȱȲȲȳȳΆΆΈΈΉΉΊΊΌΌΎΎΏΏΐΐ",
    "ΪΪΫΫάάέέήήίίΰΰϊϊϋϋόόύύώώϓϓϔϔЀЀЁЁЃЃЇЇЌЌЍЍЎЎЙЙййѐѐёёѓѓ",
    "їїќќѝѝўўѶѶѷѷӁӁӂӂӐӐӑӑӒӒӓӓӖӖӗӗӚӚӛӛӜӜӝӝӞӞӟӟӢӢӣӣӤӤӥӥӦӦӧӧ",
    "ӪӪӫӫӬӬӭӭӮӮӯӯӰӰӱӱӲӲӳӳӴӴӵӵӸӸӹӹآآأأؤؤإإئئۀۀۂۂۓۓऩऩऱऱऴऴোো",
    "ৌৌୈୈୋୋୌୌஔஔொொோோௌௌైైೀೀೇೇೈೈೊೊೋೋൊൊോോൌൌේේොොෝෝෞෞဦဦᬆᬆᬈᬈᬊᬊᬌᬌ",
    "ᬎᬎᬒᬒᬻᬻᬽᬽᭀᭀᭁᭁᭃᭃḀḀḁḁḂḂḃḃḄḄḅḅḆḆḇḇḈḈḉḉḊḊḋḋḌḌḍḍḎḎḏḏḐḐḑḑḒḒ",
    "ḓḓḔḔḕḕḖḖḗḗḘḘḙḙḚḚḛḛḜḜḝḝḞḞḟḟḠḠḡḡḢḢḣḣḤḤḥḥḦḦḧḧḨḨḩḩḪḪḫḫḬḬ",
    "ḭḭḮḮḯḯḰḰḱḱḲḲḳḳḴḴḵḵḶḶḷḷḸḸḹḹḺḺḻḻḼḼḽḽḾḾḿḿṀṀṁṁṂṂṃṃṄṄṅṅṆṆ",
    "ṇṇṈṈṉṉṊṊṋṋṌṌṍṍṎṎṏṏṐṐṑṑṒṒṓṓṔṔṕṕṖṖṗṗṘṘṙṙṚṚṛṛṜṜṝṝṞṞṟṟṠṠ",
    "ṡṡṢṢṣṣṤṤṥṥṦṦṧṧṨṨṩṩṪṪṫṫṬṬṭṭṮṮṯṯṰṰṱṱṲṲṳṳṴṴṵṵṶṶṷṷṸṸṹṹṺṺ",
    "ṻṻṼṼṽṽṾṾṿṿẀẀẁẁẂẂẃẃẄẄẅẅẆẆẇẇẈẈẉẉẊẊẋẋẌẌẍẍẎẎẏẏẐẐẑẑẒẒẓẓẔẔ",
    "ẕẕẖẖẗẗẘẘẙẙẛẛẠẠạạẢẢảảẤẤấấẦẦầầẨẨẩẩẪẪẫẫẬẬậậẮẮắắẰẰằằẲẲẳẳ",
    "ẴẴẵẵẶẶặặẸẸẹẹẺẺẻẻẼẼẽẽẾẾếếỀỀềềỂỂểểỄỄễễỆỆệệỈỈỉỉỊỊịịỌỌọọ",
    "ỎỎỏỏỐỐốốỒỒồồỔỔổổỖỖỗỗỘỘộộỚỚớớỜỜờờỞỞởởỠỠỡỡỢỢợợỤỤụụỦỦủủ",
    "ỨỨứứỪỪừừỬỬửửỮỮữữỰỰựựỲỲỳỳỴỴỵỵỶỶỷỷỸỸỹỹἀἀἁἁἂἂἃἃἄἄἅἅἆἆἇἇ",
    "ἈἈἉἉἊἊἋἋἌἌἍἍἎἎἏἏἐἐἑἑἒἒἓἓἔἔἕἕἘἘἙἙἚἚἛἛἜἜἝἝἠἠἡἡἢἢἣἣἤἤἥἥ",
    "ἦἦἧἧἨἨἩἩἪἪἫἫἬἬἭἭἮἮἯἯἰἰἱἱἲἲἳἳἴἴἵἵἶἶἷἷἸἸἹἹἺἺἻἻἼἼἽἽἾἾἿἿ",
    "ὀὀὁὁὂὂὃὃὄὄὅὅὈὈὉὉὊὊὋὋὌὌὍὍὐὐὑὑὒὒὓὓὔὔὕὕὖὖὗὗὙὙὛὛὝὝὟὟὠὠὡὡ",
    "ὢὢὣὣὤὤὥὥὦὦὧὧὨὨὩὩὪὪὫὫὬὬὭὭὮὮὯὯὰὰὲὲὴὴὶὶὸὸὺὺὼὼᾀᾀᾁᾁᾂᾂᾃᾃᾄᾄ",
    "ᾅᾅᾆᾆᾇᾇᾈᾈᾉᾉᾊᾊᾋᾋᾌᾌᾍᾍᾎᾎᾏᾏᾐᾐᾑᾑᾒᾒᾓᾓᾔᾔᾕᾕᾖᾖᾗᾗᾘᾘᾙᾙᾚᾚᾛᾛᾜᾜᾝᾝᾞᾞ",
    "ᾟᾟᾠᾠᾡᾡᾢᾢᾣᾣᾤᾤᾥᾥᾦᾦᾧᾧᾨᾨᾩᾩᾪᾪᾫᾫᾬᾬᾭᾭᾮᾮᾯᾯᾰᾰᾱᾱᾲᾲᾳᾳᾴᾴᾶᾶᾷᾷᾸᾸᾹᾹ",
    "ᾺᾺᾼᾼῂῂῃῃῄῄῆῆῇῇῈῈῊῊῌῌῐῐῑῑῒῒῖῖῗῗῘῘῙῙῚῚῠῠῡῡῢῢῤῤῥῥῦῦῧῧῨῨ",
    "ῩῩῪῪῬῬῲῲῳῳῴῴῶῶῷῷῸῸῺῺῼῼががぎぎぐぐげげごござざじじずずぜぜぞぞだだぢぢづづででどど",
    "ばばぱぱびびぴぴぶぶぷぷべべぺぺぼぼぽぽゔゔゞゞガガギギググゲゲゴゴザザジジズズゼゼゾゾダダヂヂヅヅデデ",
    "ドドババパパビビピピブブププベベペペボボポポヴヴヷヷヸヸヹヹヺヺヾヾ𑂚𑂚𑂜𑂜𑂫𑂫𑄮𑄮𑄯𑄯𑍋𑍋𑍌𑍌𑒻𑒻𑒼𑒼",
    "𑒾𑒾𑖺𑖺𑖻𑖻𑤸𑤸"]

/-- A composite letter with its two parts. -/
structure Composite where
  whole : Char
  letter : Char
  mark : Char

/-- Read composites that are written one behind the other. -/
def readComposites : List Char → List Composite
  | whole :: letter :: mark :: rest => { whole, letter, mark } :: readComposites rest
  | _ => []

/-- All composites. -/
def composites : List Composite :=
  compositeText.flatMap fun line => readComposites line.toList

/-- The parts of a composite letter. -/
def parts? (c : Char) : Option (Char × Char) :=
  (composites.find? (·.whole == c)).map fun composite => (composite.letter, composite.mark)

/-- The composite of a letter and a mark. -/
def composite? (letter mark : Char) : Option Char :=
  (composites.find? fun composite => composite.letter == letter && composite.mark == mark).map
    (·.whole)

end Marginalia.Text
