import Postal.Json.Shape
import Postal.Locale.Basic

namespace Postal.Locale

def toJson (locale : Locale) : Json :=
  .string locale.spec

def read (value : Json) : Except ShapeError Locale :=
  (Shape.readText value).map ofTag

end Postal.Locale
