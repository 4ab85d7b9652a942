import SmartMetWfs.Core.Decimal
import SmartMetWfs.Foundation.Outcomes

/-!
# Members of a contour response

`StoredContourQueryHandler::parseQueryResults` writes a member for each geometry of the
results. A geometry that is given directly is looked at before a member is added. From a
collection the geometries are dug out first, each into a result of its own, and a member
is added for each of these.
-/

namespace SmartMetWfs.Handlers

open Foundation

/-- A geometry of OGR. The geometries of the types that are not listed are only known by
their type and whether they are empty. -/
inductive Geometry (Number : Type)
  | polygon (rings : List (List (Number × Number)))
  | multiPolygon (polygons : List (List (List (Number × Number))))
  | linearRing (points : List (Number × Number))
  | lineString (points : List (Number × Number))
  | multiLineString (lines : List (List (Number × Number)))
  | collection (geometries : List (Geometry Number))
  | other (type : Nat) (empty : Bool)

namespace Geometry

variable {Number : Type}

mutual

/-- `IsEmpty`: a geometry that consists of others is empty if all of them are. -/
def isEmpty : Geometry Number → Bool
  | polygon rings => rings.all List.isEmpty
  | multiPolygon polygons => polygons.all fun rings => rings.all List.isEmpty
  | linearRing points => points.isEmpty
  | lineString points => points.isEmpty
  | multiLineString lines => lines.all List.isEmpty
  | collection geometries => allEmpty geometries
  | other _ empty => empty

/-- Whether all geometries are empty. -/
def allEmpty : List (Geometry Number) → Bool
  | [] => true
  | geometry :: rest => geometry.isEmpty && allEmpty rest

end

/-- The types that `parseGeometry` knows. -/
def isSupported : Geometry Number → Bool
  | polygon _ => true
  | multiPolygon _ => true
  | linearRing _ => true
  | lineString _ => true
  | multiLineString _ => true
  | collection _ => false
  | other _ _ => false

mutual

/-- The geometries in order that are no collections. -/
def leaves : Geometry Number → List (Geometry Number)
  | collection geometries => leavesOf geometries
  | leaf => [leaf]

/-- The leaves of all geometries, in their order. -/
def leavesOf : List (Geometry Number) → List (Geometry Number)
  | [] => []
  | geometry :: rest => geometry.leaves ++ leavesOf rest

end

end Geometry

/-- A polygon by the texts of its rings. -/
structure PolygonPatch where
  exteriorRing : ByteString
  interiorRings : List ByteString

/-- The hash `result` of a member. What `setResultHashValue` of the handler sets is kept
as one value. -/
structure ContourResultHash (Values : Type) where
  surfaceMembers : Option (List PolygonPatch) := none
  isolines : Option (List ByteString) := none
  timestamp : ByteString := []
  values : Option Values := none

/-- What is written for one geometry. -/
structure WfsMember (Values : Type) where
  phenomenonTime : ByteString := []
  analysisTime : ByteString := []
  modificationTime : ByteString := []
  featureOfInterestShape : ByteString := []
  result : ContourResultHash Values := {}

/-- A null pointer is followed. -/
inductive NullPointer
  | exteriorRing

/-- The parts of a query that the members are written with. -/
structure ContourContext (Number Time Values : Type) where
  double2string : Number → (precision : Nat) → ByteString
  latLonOrder : Bool
  precision : Nat
  formatLocalTime : Time → ByteString
  origintimeTimestamp : ByteString
  modificationtimeTimestamp : ByteString
  /-- `bbox2string` of the bounding box of the query. -/
  featureOfInterestShape : ByteString

/-- `ContourQueryResult`, with what the handler puts into the hash for it. -/
structure ContourQueryResult (Number Time Values : Type) where
  areaGeoms : List (Time × Geometry Number)
  values : Values

/-- The fields of the hash that count and hold the members. -/
structure ContourHash (Values : Type) where
  wfsMembers : List (WfsMember Values)
  numberMatched : ByteString
  numberReturned : ByteString

variable {Number Time Values : Type}

section

variable (ctx : ContourContext Number Time Values)

/-- `formatCoordinates`. -/
def formatCoordinates (points : List (Number × Number)) : ByteString :=
  let texts := points.map fun point =>
    let x := ctx.double2string point.1 ctx.precision
    let y := ctx.double2string point.2 ctx.precision
    if ctx.latLonOrder then y ++ ascii " " ++ x else x ++ ascii " " ++ y
  (ascii ",").intercalate texts

/-- `parsePolygon`. A polygon without rings has no exterior ring. -/
def parsePolygon : List (List (Number × Number)) → Except NullPointer PolygonPatch
  | [] => .error .exteriorRing
  | exteriorRing :: interiorRings =>
      .ok ⟨formatCoordinates ctx exteriorRing, interiorRings.map (formatCoordinates ctx)⟩

/-- `parseGeometry`: only the shape in the result is written. -/
def parseGeometry (geom : Geometry Number) (result : ContourResultHash Values) :
    Except NullPointer (ContourResultHash Values) :=
  match geom with
  | .multiPolygon polygons => do
      let patches ← polygons.mapM (parsePolygon ctx)
      return { result with surfaceMembers := some patches }
  | .polygon rings => do
      let patch ← parsePolygon ctx rings
      return { result with surfaceMembers := some [patch] }
  | .linearRing points => do
      let patch ← parsePolygon ctx [points]
      return { result with surfaceMembers := some [patch] }
  | .lineString points => .ok { result with isolines := some [formatCoordinates ctx points] }
  | .multiLineString lines =>
      .ok { result with isolines := some (lines.map (formatCoordinates ctx)) }
  | .collection _ => .ok result
  | .other _ _ => .ok result

mutual

/-- One geometry of a collection. -/
def handleGeometry (results : List (ContourResultHash Values)) :
    Geometry Number → Except NullPointer (List (ContourResultHash Values))
  | .collection geometries =>
      if Geometry.allEmpty geometries then .ok results
      else handleGeometryCollection results geometries
  | leaf =>
      if leaf.isEmpty then .ok results
      else do
        let result ← parseGeometry ctx leaf {}
        return results ++ [result]

/-- `handleGeometryCollection`. -/
def handleGeometryCollection (results : List (ContourResultHash Values)) :
    List (Geometry Number) → Except NullPointer (List (ContourResultHash Values))
  | [] => .ok results
  | geometry :: rest => do
      let results ← handleGeometry results geometry
      handleGeometryCollection results rest

end

/-- A write to an array that grows as it is written to. -/
def putAt {α : Type} (blank : α) (items : List α) (index : Nat) (item : α) : List α :=
  (items ++ List.replicate (index + 1 - items.length) blank).set index item

/-- The members and `wfs_member_index`. -/
structure MemberList (Values : Type) where
  members : List (WfsMember Values)
  index : UInt32

/-- The member at the index gets its times and its result, and the index is moved on. -/
def addMember (geomTimestamp : ByteString) (list : MemberList Values)
    (result : ContourResultHash Values) : MemberList Values where
  members := putAt {} list.members list.index.toNat {
    phenomenonTime := geomTimestamp
    analysisTime := ctx.origintimeTimestamp
    modificationTime := ctx.modificationtimeTimestamp
    featureOfInterestShape := ctx.featureOfInterestShape
    result }
  index := list.index + 1

/-- The geometry of one time step. One that is given directly is parsed twice. -/
def parseAreaGeom (values : Values) (list : MemberList Values) (areaGeom : Time × Geometry Number) :
    Except NullPointer (MemberList Values) :=
  let geomTimestamp := ctx.formatLocalTime areaGeom.1
  let geom := areaGeom.2
  if geom.isEmpty then .ok list
  else if geom.isSupported then do
    let present := (list.members[list.index.toNat]?.getD {}).result
    let result := { present with timestamp := geomTimestamp, values := some values }
    let result ← parseGeometry ctx geom result
    let result ← parseGeometry ctx geom result
    return addMember ctx geomTimestamp list result
  else
    match geom with
    | .collection geometries => do
        let results ← handleGeometryCollection ctx [] geometries
        return results.foldl (fun list res =>
          addMember ctx geomTimestamp list
            { res with timestamp := geomTimestamp, values := some values }) list
    | _ => .ok list

/-- `parseQueryResults`, the members and their number. -/
def parseQueryResults (queryResults : List (ContourQueryResult Number Time Values)) :
    Except NullPointer (ContourHash Values) := do
  let list ← queryResults.foldlM (fun list resultItem =>
    resultItem.areaGeoms.foldlM (parseAreaGeom ctx resultItem.values) list) ⟨[], 0⟩
  return ⟨list.members, decimal list.index.toNat, decimal list.index.toNat⟩

end

end SmartMetWfs.Handlers
