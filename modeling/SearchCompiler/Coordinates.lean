import SearchCompiler.Record

/-!
Points on the globe.
-/

namespace SearchCompiler

structure Coordinates where
  lat : Binary64
  lon : Binary64
  deriving DecidableEq

namespace Coordinates

def ofJson : Json → Read Coordinates :=
  Json.toRecord ["lat", "lon"] fun r =>
    mk <$> r.required "lat" Json.toBinary64 <*> r.required "lon" Json.toBinary64

def toJson (p : Coordinates) : Json :=
  .record [("lat", .number (.float p.lat)), ("lon", .number (.float p.lon))]

end Coordinates

end SearchCompiler
