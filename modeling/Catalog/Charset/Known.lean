import Catalog.Charset.Big5
import Catalog.Charset.Composed
import Catalog.Charset.Escaped
import Catalog.Charset.Iso2022
import Catalog.Charset.Unicode
/-!
This module contains the list of all sets of characters that are known.
-/

namespace Catalog.Charset

def known : List Charset :=
  singleByte ++ composed ++ japanese ++ chinese ++ traditional ++ [eucTw] ++ korean ++ iso2022 ++
    unicode ++ escaped

def ofName? (name : String) : Option Charset := known.find? (·.names.contains name.toLower)

end Catalog.Charset
