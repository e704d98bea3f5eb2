import Catalog.Xml.Lexer
import Catalog.Xml.Remark
/-!
This module contains the step from the text of a document to its tree. A document that is not
well-formed has none, nor has one whose elements are nested too deeply.
-/

namespace Catalog.Xml

def Piece.isTrailing : Piece → Bool
  -- A piece that is broken off might have been one that may stand there.
  | .comment _ | .instruction _ _ => true
  | .text raw => raw.all isBlank
  | .broken ('<' :: '?' :: _) | .broken ('<' :: '!' :: '-' :: '-' :: _) => true
  | _ => false

namespace Parser

structure Opened where
  name : QName
  tag : Tag
  children : List Node := []
deriving Inhabited

def Opened.add (o : Opened) (n : Node) : Opened :=
  match n, o.children with
  -- Text right behind text makes one text.
  | .text s, .text t :: ns => { o with children := .text (t ++ s) :: ns }
  | n, ns => { o with children := n :: ns }

def Opened.close (o : Opened) : Element := ⟨o.tag, o.children.reverse⟩

def text? (raw : List Char) : Option String :=
  if (Lexer.split? [']', ']', '>'] raw).isSome then
    -- The mark that ends literal text must not stand outside of it.
    none
  else
    (Lexer.expand Lexer.plainText none (Lexer.lineEnds raw)).map String.ofList

def maxNesting : Nat := 256

structure Progress where
  declared : Bool := false
  root : Option Element := none
  opened : List Opened := []
  remarks : List Remark := []
  identifiers : List String := []
deriving Inhabited

namespace Progress

def add (p : Progress) (n : Node) : Progress :=
  match p.opened with
  -- Comments and instructions outside of the root are not part of the tree.
  | [] => p
  | o :: os => { p with opened := o.add n :: os }

def finish? (p : Progress) (e : Element) : Option Progress :=
  match p.opened, p.root with
  | o :: os, _ => some { p with opened := o.add (.element e.tag e.children) :: os }
  | [], none => some { p with root := some e }
  | [], some _ => none

def step? (p : Progress) : Piece × Nat → Option Progress
  | (.start name attributes closed, line) => do
    if maxNesting ≤ p.opened.length then none
    let inherited := (p.opened.head?.map (·.tag.inScope)).getD []
    let start : StartTag := ⟨name, attributes, inherited⟩
    let tag ← start.tag? line
    let p := { p with
      remarks := p.remarks ++ Remark.ofStart p.identifiers start
      identifiers := (Remark.identifier? attributes).toList ++ p.identifiers }
    if closed then p.finish? ⟨tag, []⟩
    else some { p with opened := { name, tag } :: p.opened }
  | (.finish raw, _) =>
    match p.opened with
    | [] => none
    | o :: os => if Lexer.isEndOf o.name raw then { p with opened := os }.finish? o.close else none
  | (.text raw, _) =>
    if p.opened.isEmpty then
      if raw.all isBlank then some p else none
    else
      (text? raw).map fun s => p.add (.text s)
  | (.literal text, _) =>
    if p.opened.isEmpty then none else some (p.add (.text (String.ofList text)))
  | (.comment text, _) => some (p.add (.comment (String.ofList text)))
  | (.instruction target data, _) =>
    let p := { p with remarks := p.remarks ++ Remark.ofTarget target }
    some (p.add (.instruction (String.ofList target) (data.map String.ofList)))
  | (.doctype, _) =>
    if p.declared || p.root.isSome || !p.opened.isEmpty then none
    else some { p with declared := true }
  | (.broken _, _) => none

def isOver (p : Progress) : Bool := p.opened.isEmpty && p.root.isSome

def run? (p : Progress) : List (Piece × Nat) → Option Progress
  | [] => some p
  | piece :: pieces =>
    if p.isOver && !piece.1.isTrailing then
      -- What may not follow the root is not looked at any more if there has been a fault.
      if p.remarks.any Remark.isFault then some p else none
    else
      (p.step? piece).bind (run? · pieces)

end Progress

def assemble? (remarks : List Remark) (pieces : List (Piece × Nat)) : Option Element := do
  let p ← Progress.run? { remarks } pieces
  if p.opened.isEmpty && Remark.acceptable p.remarks then p.root else none

end Parser

def parseText? (shown : Option ShownEncoding) (cs : List Char) : Option Element := do
  let (declaration, body) ← Declaration.read? cs
  Parser.assemble? (declaration.toList.flatMap (Remark.ofDeclaration shown))
    (Lexer.pieces (1 + Lexer.feeds cs - Lexer.feeds body) body)

def parse? (bytes : List UInt8) : Option Element :=
  (decode? bytes).bind (parseText? ((ShownEncoding.ofBytes? bytes).map (·.1)))

def parseString? (s : String) : Option Element :=
  -- The declaration may name another encoding, which makes other characters of these bytes.
  parse? s.toUTF8.toList

end Catalog.Xml
