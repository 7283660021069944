import StreamLinks.Text.Basic
import StreamLinks.Text.CombiningClass
/-!
The composed form of a text: marks in the order of their classes, and a letter with the marks behind it
as one character where there is such a character (Unicode's normalization form C). Only composites that
may stand in a domain are known here; the mapping has replaced all others.
-/
namespace StreamLinks.Url.Domain

/-- Second characters of composites, with first characters and with the composites in the same order. -/
def compositeGroups : List (Nat × String × String) :=
  [(0x300, "aeiouünеиēōwâăêôơưyἀἁἐἑἠἡἰἱὀὁὐὑὠὡαεη", "àèìòùǜǹѐѝḕṑẁầằềồờừỳἂἃἒἓἢἣἲἳὂὃὒὓὢὣὰὲὴ"),
   (0x300, "ιουωϊϋ", "ὶὸὺὼῒῢ"),
   (0x301, "aeiouyclnrszügåæøϊαεηιϋουωгкçēïkmõōp", "áéíóúýćĺńŕśźǘǵǻǽǿΐάέήίΰόύώѓќḉḗḯḱḿṍṓṕ"),
   (0x301, "ũwâăêôơưἀἁἐἑἠἡἰἱὀὁὐὑὠὡ", "ṹẃấắếốớứἄἅἔἕἤἥἴἵὄὅὔὕὤὥ"),
   (0x302, "aeioucghjswyzạẹọ", "âêîôûĉĝĥĵŝŵŷẑậệộ"),
   (0x303, "anoiuvâăeêôơưy", "ãñõĩũṽẫẵẽễỗỡữỹ"),
   (0x304, "aeiouüäȧæǫöõȯyиуgḷṛαιυ", "āēīōūǖǟǡǣǭȫȭȱȳӣӯḡḹṝᾱῑῡ"),
   (0x306, "aegiouиужаеȩạαιυ", "ăĕğĭŏŭйўӂӑӗḝặᾰῐῠ"),
   (0x307, "cegzaobdfhmnprsśšṣtwxy𐗒𐗚", "ċėġżȧȯḃḋḟḣṁṅṗṙṡṥṧṩṫẇẋẏ𐗉𐗤"),
   (0x308, "aeiouyιυеіаәжзиоөэучыhõūwxt", "äëïöüÿϊϋёїӓӛӝӟӥӧӫӭӱӵӹḧṏṻẅẍẗ"),
   (0x309, "aâăeêioôơuưy", "ảẩẳẻểỉỏổởủửỷ"),
   (0x30A, "auwy", "åůẘẙ"),
   (0x30B, "ouу", "őűӳ"),
   (0x30C, "cdelnrstzaiouügkʒjh", "čďěľňřšťžǎǐǒǔǚǧǩǯǰȟ"),
   (0x30F, "aeioruѵ", "ȁȅȉȍȑȕѷ"),
   (0x311, "aeioru", "ȃȇȋȏȓȗ"),
   (0x313, "αεηιουωρ", "ἀἐἠἰὀὐὠῤ"),
   (0x314, "αεηιουωρ", "ἁἑἡἱὁὑὡῥ"),
   (0x31B, "ou", "ơư"),
   (0x323, "bdhklmnrstvwzaeioơuưy", "ḅḍḥḳḷṃṇṛṣṭṿẉẓạẹịọợụựỵ"),
   (0x324, "u", "ṳ"),
   (0x325, "a", "ḁ"),
   (0x326, "st", "șț"),
   (0x327, "cgklnrstedh", "çģķļņŗşţȩḑḩ"),
   (0x328, "aeiuo", "ąęįųǫ"),
   (0x32D, "delntu", "ḓḙḽṋṱṷ"),
   (0x32E, "h", "ḫ"),
   (0x330, "eiu", "ḛḭṵ"),
   (0x331, "bdklnrtzh", "ḇḏḵḻṉṟṯẕẖ"),
   (0x338, "←→↔⇐⇔⇒∃∈∋∣∥∼≃≅≈=≡≍<>≤≥≲≳≶≷≺≻⊂⊃⊆⊇⊢⊨⊩⊫", "↚↛↮⇍⇎⇏∄∉∌∤∦≁≄≇≉≠≢≭≮≯≰≱≴≵≸≹⊀⊁⊄⊅⊈⊉⊬⊭⊮⊯"),
   (0x338, "≼≽⊑⊒⊲⊳⊴⊵", "⋠⋡⋢⋣⋪⋫⋬⋭"),
   (0x342, "ἀἁἠἡἰἱὐὑὠὡαηιϊυϋω", "ἆἇἦἧἶἷὖὗὦὧᾶῆῖῗῦῧῶ"),
   (0x653, "ا", "آ"),
   (0x654, "اويەہے", "أؤئۀۂۓ"),
   (0x655, "ا", "إ"),
   (0x93C, "नरळ", "ऩऱऴ"),
   (0x9BE, "ে", "ো"),
   (0x9D7, "ে", "ৌ"),
   (0xB3E, "େ", "ୋ"),
   (0xB56, "େ", "ୈ"),
   (0xB57, "େ", "ୌ"),
   (0xBBE, "ெே", "ொோ"),
   (0xBD7, "ஒெ", "ஔௌ"),
   (0xC56, "ె", "ై"),
   (0xCC2, "ೆ", "ೊ"),
   (0xCD5, "ಿೆೊ", "ೀೇೋ"),
   (0xCD6, "ೆ", "ೈ"),
   (0xD3E, "െേ", "ൊോ"),
   (0xD57, "െ", "ൌ"),
   (0xDCA, "ෙො", "ේෝ"),
   (0xDCF, "ෙ", "ො"),
   (0xDDF, "ෙ", "ෞ"),
   (0x102E, "ဥ", "ဦ"),
   (0x1B35, "ᬅᬇᬉᬋᬍᬑᬺᬼᬾᬿᭂ", "ᬆᬈᬊᬌᬎᬒᬻᬽᭀᭁᭃ"),
   (0x3099, "かきくけこさしすせそたちつてとはひふへほうゝカキクケコサシスセソタチツテ", "がぎぐげござじずぜぞだぢづでどばびぶべぼゔゞガギグゲゴザジズゼゾダヂヅデ"),
   (0x3099, "トハヒフヘホウワヰヱヲヽ", "ドバビブベボヴヷヸヹヺヾ"),
   (0x309A, "はひふへほハヒフヘホ", "ぱぴぷぺぽパピプペポ"),
   (0x110BA, "𑂙𑂛𑂥", "𑂚𑂜𑂫"),
   (0x11127, "𑄱𑄲", "𑄮𑄯"),
   (0x1133E, "𑍇", "𑍋"),
   (0x11357, "𑍇", "𑍌"),
   (0x113B8, "𑏂", "𑏇"),
   (0x113BB, "𑎄", "𑎅"),
   (0x113C2, "𑎎", "𑎎𑏅"),
   (0x113C9, "𑎂𑎐𑏂", "𑎃𑎑𑏈"),
   (0x114B0, "𑒹", "𑒼"),
   (0x114BA, "𑒹", "𑒻"),
   (0x114BD, "𑒹", "𑒾"),
   (0x115AF, "𑖸𑖹", "𑖺𑖻"),
   (0x11930, "𑤵", "𑤸"),
   (0x1611E, "𖄞", "𖄡"),
   (0x1611F, "𖄢𖄡𖄢", "𖄣𖄤𖄦𖄧"),
   (0x16120, "𖄡𖄞", "𖄥𖄨"),
   (0x16129, "𖄞", "𖄢"),
   (0x16D67, "𖵧𖵣𖵩", "𖵨𖵩𖵪")]

/-- Two characters and the one that stands for both. -/
structure Composite where
  first : Char
  second : Char
  whole : Char
  deriving Repr, DecidableEq

/-- All composites but the syllables of Hangul. -/
def composites : List Composite :=
  compositeGroups.flatMap fun (second, firsts, wholes) =>
    (firsts.toList.zip wholes.toList).map fun (first, whole) => ⟨first, Char.ofNat second, whole⟩

/-- A syllable of Hangul: an initial and a vowel, or those two as one character and a final. -/
def hangul? (first second : Char) : Option Char :=
  let (a, b) := (first.toNat, second.toNat)
  if 0x1100 ≤ a ∧ a < 0x1113 ∧ 0x1161 ≤ b ∧ b < 0x1176 then
    some (Char.ofNat (0xAC00 + ((a - 0x1100) * 21 + (b - 0x1161)) * 28))
  else if 0xAC00 ≤ a ∧ a < 0xD7A4 ∧ (a - 0xAC00) % 28 = 0 ∧ 0x11A7 < b ∧ b < 0x11C3 then
    some (Char.ofNat (a + (b - 0x11A7)))
  else none

/-- The initial, the vowel and the final of a syllable of Hangul. -/
def hangulParts? (c : Char) : Option Text :=
  let code := c.toNat
  if 0xAC00 ≤ code ∧ code < 0xD7A4 then
    let place := code - 0xAC00
    let front := [Char.ofNat (0x1100 + place / 588), Char.ofNat (0x1161 + place % 588 / 28)]
    some (if place % 28 = 0 then front else front ++ [Char.ofNat (0x11A7 + place % 28)])
  else none

/-- The one character for two, if there is one. -/
def compose? (first second : Char) : Option Char :=
  match hangul? first second with
  | some syllable => some syllable
  | none =>
    (composites.find? fun pair => pair.second == second && pair.first == first).map (·.whole)

/-- A character in its parts, down to `depth` levels. -/
def parts : (depth : Nat) → Char → Text
  | 0, c => [c]
  | depth + 1, c =>
    if c.toNat < 0x80 then [c]
    else
      match hangulParts? c with
      | some letters => letters
      | none =>
        match composites.find? fun pair => pair.whole == c with
        | some pair => parts depth pair.first ++ parts depth pair.second
        | none => [c]

/-- The levels that the parts of a composite can have. -/
def depthOfParts : Nat := 4

/-- A character with its combining class. -/
structure Classed where
  order : Nat
  char : Char
  deriving Repr, DecidableEq

/-- The parts of the characters, with the marks behind each letter in the order of their classes. -/
def decompose (text : Text) : List Classed :=
  let all := (text.flatMap (parts depthOfParts)).map fun c => Classed.mk (Text.combiningClass c) c
  ((all.splitBy fun _ next => next.order != 0).map
    (·.mergeSort fun a b => a.order ≤ b.order)).flatten

/-- Joins each letter with the marks behind it. `kept` holds the marks, the last one first, that stay
behind `letter`; a mark that comes after one of the same class does not reach the letter. -/
def recompose (letter : Char) : (kept : List Classed) → List Classed → Text
  | kept, [] => letter :: (kept.map (·.char)).reverse
  | kept, next :: rest =>
    let reaches := match kept with
      | [] => true
      | last :: _ => last.order < next.order
    match if reaches then compose? letter next.char else none with
    | some whole => recompose whole kept rest
    | none =>
      if next.order = 0 then letter :: (kept.map (·.char)).reverse ++ recompose next.char [] rest
      else recompose letter (next :: kept) rest

/-- The composed form of a text. Marks at its front stay as they are. -/
def compose (text : Text) : Text :=
  let all := decompose text
  match all.dropWhile (·.order != 0) with
  | [] => all.map (·.char)
  | letter :: rest =>
    (all.takeWhile (·.order != 0)).map (·.char) ++ recompose letter.char [] rest

end StreamLinks.Url.Domain
