import SearchCompiler.Coordinates
import SearchCompiler.Fragment.Basic

/-!
Queries and sort entries about points. The member that holds the point is called as the field is.
-/

namespace SearchCompiler.Fragment

def within (field : String) (point : Coordinates) (distance : String) (options : Options) : Json :=
  body "geo_distance"
    (withMember field point.toJson
      (withMember "distance" (.string distance) (keep Allowed.distance options)))

def inBox (field : String) (topLeft bottomRight : Coordinates) (options : Options) : Json :=
  let corners := Json.record
    [("top_left", topLeft.toJson), ("bottom_right", bottomRight.toJson)]
  body "geo_bounding_box" (withMember field corners (keep Allowed.box options))

def distanceSortMember : String := "_geo_distance"

def distanceSort (field : String) (point : Coordinates) (order unit : String) (options : Options) :
    Json :=
  body distanceSortMember
    (withMember field point.toJson
      (withMember "order" (.string order)
        (withDefault "unit" (.string unit) (keep Allowed.sortByDistance options))))

end SearchCompiler.Fragment
