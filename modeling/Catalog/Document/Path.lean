/-!
This module contains the plain form of paths, in which empty parts and parts `.` are left out
because they say nothing, and the look-up of files by it.
-/

namespace Catalog.Path

def split : List Char → List (List Char)
  | [] => [[]]
  | c :: cs =>
    if c = '/' then
      [] :: split cs
    else
      match split cs with
      | [] => [[c]]
      | part :: parts => (c :: part) :: parts

def root : List Char → List Char
  -- Exactly two slashes are kept, more count as one.
  | '/' :: '/' :: '/' :: _ => ['/']
  | '/' :: '/' :: _ => ['/', '/']
  | '/' :: _ => ['/']
  | _ => []

def parts (path : List Char) : List (List Char) :=
  (split path).filter fun part => part ≠ [] && part ≠ ['.']

def plain (path : String) : String :=
  match root path.toList ++ ['/'].intercalate (parts path.toList) with
  | [] => "."
  | cs => String.ofList cs

def lookup (path : String) : String := String.ofList (path.toList.takeWhile (· != '\x00'))

end Catalog.Path
