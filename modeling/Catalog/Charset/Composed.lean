import Catalog.Charset.SingleByte
/-!
This module contains the sets of characters that write a letter and a mark on it as two bytes. The
two bytes stand for one character if there is one for both.
-/

namespace Catalog.Charset

structure Composition where
  pairs : List (Char × String × String)
  again : List Char
deriving DecidableEq, Repr, Inhabited

namespace Composition

def compose? (k : Composition) (c mark : Char) : Option Char :=
  (k.pairs.lookup mark).bind fun (bases, composed) => (bases.toList.zip composed.toList).lookup c

def apply (k : Composition) : List Char → List Char
  | [] => []
  | [c] => [c]
  | c :: mark :: cs =>
    match k.compose? c mark with
    | none => c :: k.apply (mark :: cs)
    | some d => if d ∈ k.again then k.apply (d :: cs) else d :: k.apply cs
termination_by cs => cs.length

end Composition

def composedBy (k : Composition) (set : Charset) : Charset :=
  ⟨set.names, fun bytes => (set.decode? bytes).map k.apply⟩

def toneMarks : Composition where
  pairs := [
    ('\u0300', "AEINOUWYaeinouwy¨ÂÊÔÜâêôüĂăƠơƯư", "ÀÈÌǸÒÙẀỲàèìǹòùẁỳ῭ẦỀỒǛầềồǜẰằỜờỪừ"),
    ('\u0301', "ACEGIKLMNOPRSUWYZacegiklmnoprsuwyz¨ÂÅÆÇÊÏÔÕØÜâåæçêïôõøüĂăŨũƠơƯư",
      "ÁĆÉǴÍḰĹḾŃÓṔŔŚÚẂÝŹáćéǵíḱĺḿńóṕŕśúẃýź΅ẤǺǼḈẾḮỐṌǾǗấǻǽḉếḯốṍǿǘẮắṸṹỚớỨứ"),
    ('\u0303', "AEINOUVYaeinouvyÂÊÓÔÖÚâêóôöúĂăƠơƯư", "ÃẼĨÑÕŨṼỸãẽĩñõũṽỹẪỄṌỖṎṸẫễṍỗṏṹẴẵỠỡỮữ"),
    ('\u0309', "AEIOUYaeiouyÂÊÔâêôĂăƠơƯư", "ẢẺỈỎỦỶảẻỉỏủỷẨỂỔẩểổẲẳỞởỬử"),
    ('\u0323', "ABDEHIKLMNORSTUVWYZabdehiklmnorstuvwyzÂÊÔâêôĂăƠơƯư",
      "ẠḄḌẸḤỊḲḶṂṆỌṚṢṬỤṾẈỴẒạḅḍẹḥịḳḷṃṇọṛṣṭụṿẉỵẓẬỆỘậệộẶặỢợỰự")]
  again := []

def hebrewPoints : Composition where
  pairs := [
    ('\u05b4', "\u05d9", "\ufb1d"),
    ('\u05b7', "\u05d0\u05f2", "\ufb2e\ufb1f"),
    ('\u05b8', "\u05d0", "\ufb2f"),
    ('\u05b9', "\u05d5", "\ufb4b"),
    ('\u05bc', "\u05d0\u05d1\u05d2\u05d3\u05d4\u05d5\u05d6\u05d8\u05d9\u05da\u05db\u05dc\u05de" ++
        "\u05e0\u05e1\u05e3\u05e4\u05e6\u05e7\u05e8\u05e9\u05ea\ufb2a\ufb2b",
      "\ufb30\ufb31\ufb32\ufb33\ufb34\ufb35\ufb36\ufb38\ufb39\ufb3a\ufb3b\ufb3c\ufb3e" ++
        "\ufb40\ufb41\ufb43\ufb44\ufb46\ufb47\ufb48\ufb49\ufb4a\ufb2c\ufb2d"),
    ('\u05bf', "\u05d1\u05db\u05e4", "\ufb4c\ufb4d\ufb4e"),
    ('\u05c1', "\u05e9\ufb49", "\ufb2a\ufb2c"),
    ('\u05c2', "\u05e9\ufb49", "\ufb2b\ufb2d")]
  again := ['\ufb2a', '\ufb2b', '\ufb49']

def windowsHebrew : Charset :=
  composedBy hebrewPoints <|
    ofTable ["cp1255", "windows-1255", "ms-hebr"]
      0x80 ("€ ‚ƒ„…†‡ˆ‰ ‹     ‘’“”•–—˜™ ›    \xa0¡¢£₪¥¦§¨©×«¬\xad®¯°±²³´µ¶·¸¹÷»¼½¾¿\u05b0" ++
        "\u05b1\u05b2\u05b3\u05b4\u05b5\u05b6\u05b7\u05b8\u05b9\u05ba\u05bb\u05bc\u05bd\u05be" ++
        "\u05bf\u05c0\u05c1\u05c2\u05c3\u05f0\u05f1\u05f2\u05f3\u05f4       \u05d0\u05d1\u05d2" ++
        "\u05d3\u05d4\u05d5\u05d6\u05d7\u05d8\u05d9\u05da\u05db\u05dc\u05dd\u05de\u05df\u05e0" ++
        "\u05e1\u05e2\u05e3\u05e4\u05e5\u05e6\u05e7\u05e8\u05e9\u05ea  \u200e\u200f")

def windowsVietnamese : Charset :=
  composedBy toneMarks <|
    ofTable ["cp1258", "windows-1258"]
      0x80 ("€ ‚ƒ„…†‡ˆ‰ ‹Œ    ‘’“”•–—˜™ ›œ  Ÿ\xa0¡¢£¤¥¦§¨©ª«¬\xad®¯°±²³´µ¶·¸¹º»¼½¾¿ÀÁÂĂÄÅÆÇÈÉ" ++
        "ÊË\u0300ÍÎÏĐÑ\u0309ÓÔƠÖ×ØÙÚÛÜƯ\u0303ßàáâăäåæçèéêë\u0301íîïđñ\u0323óôơö÷øùúûüư₫ÿ")

def tcvn5712 : Charset :=
  composedBy toneMarks <|
    ofTableBut
      [(0x01, 'Ú'), (0x02, 'Ụ'), (0x04, 'Ừ'), (0x05, 'Ử'), (0x06, 'Ữ'), (0x11, 'Ứ'), (0x12, 'Ự'),
       (0x13, 'Ỳ'), (0x14, 'Ỷ'), (0x15, 'Ỹ'), (0x16, 'Ý'), (0x17, 'Ỵ')]
      ["tcvn", "tcvn-5712", "tcvn5712-1"]
      0x80 ("ÀẢÃÁẠẶẬÈẺẼÉẸỆÌỈĨÍỊÒỎÕÓỌỘỜỞỠỚỢÙỦŨ\xa0ĂÂÊÔƠƯĐăâêôơưđẰ\u0300\u0309\u0303\u0301\u0323à" ++
        "ảãáạẲằẳẵắẴẮẦẨẪẤỀặầẩẫấậèỂẻẽéẹềểễếệìỉỄẾỒĩíịòỔỏõóọồổỗốộờởỡớợùỖủũúụừửữứựỳỷỹýỵỐ")

def composed : List Charset := [windowsHebrew, windowsVietnamese, tcvn5712]

end Catalog.Charset
