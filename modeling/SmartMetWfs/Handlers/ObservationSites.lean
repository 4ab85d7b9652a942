import SmartMetWfs.Handlers.ObservationGroups
import SmartMetWfs.Handlers.ObservationParameters

/-!
# Sites of observations

`StoredObsQueryHandler::query` writes the result of the observation engine in two passes.
`set_station_list` writes the stations and registers their locations, each under the text
of the station's geoid; `set_site_observations` writes the observations of a station, and
looks the location up for the parameters that are no column of the result. Both texts
come from the same cell, but are not made with the same precision.
-/

namespace SmartMetWfs.Handlers

open Foundation

/-- The columns of the initial parameters. -/
def fmisidInd : Nat := 0
def geoidInd : Nat := 1
def lonInd : Nat := 2
def latInd : Nat := 3
def heightInd : Nat := 4
def nameInd : Nat := 5
def distInd : Nat := 6
def directionInd : Nat := 7
def wmoInd : Nat := 8

/-- The result of the engine: a column for every queried parameter, with a cell and a time
for every row. -/
structure ObsResult (Cell Time : Type) where
  rows : Nat
  cell : (column row : Nat) → Cell
  time : (row : Nat) → Time

/-- The text of a cell as `TS::StringVisitor` makes it, of the text for missing values and
the precision that are set. -/
abbrev StringVisitor (Cell : Type) :=
  (missingText : ByteString) → (precision : Nat) → Cell → ByteString

/-- What other parts of the server are asked for. -/
structure ObsServices (Time Location TimeZone : Type) where
  set2DCoord : (sx sy : ByteString) → Except ByteString (ByteString × ByteString)
  stol : ByteString → Except ByteString Int
  idSearch : (geoid : Int) → (language : ByteString) → Except ByteString (Option Location)
  area : Location → ByteString
  getTzForSite : (longitude latitude tzName : ByteString) → Except ByteString TimeZone
  epochTime : Time → Int
  formatLocalTime : Time → TimeZone → Except ByteString ByteString
  locationParameter : Location → (name tzName : ByteString) → (precision : Nat) →
    Except ByteString ByteString
  timeParameter : (name : ByteString) → Time → Location → (tzName : ByteString) →
    Except ByteString ByteString

/-- A service that is asked. -/
def ask {α : Type} : Except ByteString α → Except ObsFailure α
  | .ok answer => .ok answer
  | .error reason => .error (.service reason)

/-- `engOrFinToEnOrFi`. -/
def engOrFinToEnOrFi (language : ByteString) : ByteString :=
  let lang := asciiTolowerCopy language
  if lang = ascii "fin" then ascii "fi"
  else if lang = ascii "swe" then ascii "sv"
  else if lang = ascii "eng" then ascii "en"
  else language

/-- What is written of a station. -/
structure ObsStation where
  fmisid : ByteString
  coord : ByteString × ByteString
  height : Option ByteString
  distance : ByteString
  bearing : ByteString
  name : ByteString
  region : Option ByteString
  wmo : Option ByteString
  geoid : ByteString

/-- A value with its quality code. -/
structure ObsData where
  value : Option ByteString
  qcValue : Option ByteString

/-- The values of a station at one time. -/
structure ObsRecord where
  coord : ByteString × ByteString
  height : Option ByteString
  epochTime : Int
  epochTimeStr : ByteString
  data : List ObsData

/-- A column with its identifier. -/
structure ObsParamInfo where
  name : ByteString
  featureId : FeatureID
  isQCParameter : Bool

/-- A group with its columns and records. -/
structure ObsGroup where
  featureId : Option FeatureID
  obsParamList : List ObsParamInfo
  obsReturnArray : List ObsRecord

/-- The stations with their groups and places there, and the groups. -/
structure ObsHash where
  obsStationList : List (Nat × Nat × ObsStation)
  groups : List ObsGroup

section

variable {Cell Time Location TimeZone : Type}

/-- `index_sites`. -/
def indexSites (visitor : Nat → Cell → ByteString) (result : ObsResult Cell Time) :
    OrderedMap ByteString SiteRec :=
  (List.range result.rows).foldl (fun siteMap row =>
    let fmisid := visitor 0 (result.cell fmisidInd row)
    let site := (siteMap.find fmisid).getD ⟨0, 0, []⟩
    siteMap.set fmisid { site with rowIndexVect := site.rowIndexVect ++ [row] }) .empty

/-- `ResultContext`, without the sites. -/
structure ResultContext (Cell Time Location TimeZone : Type) where
  names : ObsNames
  services : ObsServices Time Location TimeZone
  result : ObsResult Cell Time
  /-- The visitor with the missing text set. -/
  visitor : Nat → Cell → ByteString
  request : ObsRequest
  paramIndex : List ExtParamIndexEntry

variable (ctx : ResultContext Cell Time Location TimeZone)

/-- The text of a cell. -/
def ResultContext.text (precision column row : Nat) : ByteString :=
  ctx.visitor precision (ctx.result.cell column row)

/-- `find_geoid_location`, with the region: exceptions are ignored. -/
def findGeoidLocation (geoid : ByteString) : Option Location × ByteString :=
  match ctx.services.stol geoid with
  | .error _ => (none, [])
  | .ok geoidLong =>
      match ctx.services.idSearch geoidLong (engOrFinToEnOrFi ctx.request.language) with
      | .error _ => (none, [])
      | .ok none => (none, [])
      | .ok (some geoLoc) => (some geoLoc, ctx.services.area geoLoc)

/-- The locations by the text of the geoid, and the stations written. -/
structure StationList (Location : Type) where
  sites : OrderedMap ByteString (Option Location)
  stations : List (Nat × Nat × ObsStation)

/-- A station of `set_station_list`. -/
def setStation (list : StationList Location) (item : ByteString × SiteRec) :
    Except ObsFailure (StationList Location) :=
  match item.2.rowIndexVect.head? with
  | none => .error .outOfRange
  | some row1 =>
      let lat := ctx.text 5 latInd row1
      let lon := ctx.text 5 lonInd row1
      let height := ctx.text 1 heightInd row1
      let name := ctx.text 1 nameInd row1
      let distance := ctx.text 1 distInd row1
      let bearing := ctx.text 1 directionInd row1
      let geoid := ctx.text 1 geoidInd row1
      let wmo := ctx.text 1 wmoInd row1
      if lat ≠ [] ∧ lon ≠ [] then do
        let coord ← ask (ctx.services.set2DCoord lat lon)
        let missingText := ctx.request.missingText
        let (geoLoc, region) := if geoid ≠ [] then findGeoidLocation ctx geoid else (none, [])
        return {
          sites := if geoid ≠ [] then list.sites.set geoid geoLoc else list.sites
          stations := list.stations ++ [(item.2.groupId, item.2.indInGroup, {
            fmisid := item.1
            coord
            height :=
              if ctx.request.showHeight then some (if height = [] then missingText else height)
              else none
            distance := if distance = [] then missingText else distance
            bearing :=
              if distance = [] ∨ bearing = [] ∨ distance = missingText then missingText else bearing
            name
            region := if region = [] then none else some region
            wmo := if wmo ≠ [] ∧ wmo ≠ ascii "0" ∧ wmo ≠ ascii "NaN" then some wmo else none
            geoid := if geoid = [] ∨ geoid = ascii "-1" then missingText else geoid })] }
      else .error .latLonQuery

/-- `set_station_list`. -/
def setStationList (siteMap : OrderedMap ByteString SiteRec) :
    Except ObsFailure (StationList Location) :=
  siteMap.entries.foldlM (setStation ctx) ⟨.empty, []⟩

variable (sites : OrderedMap ByteString (Option Location))

/-- `set_observation_value`. A parameter without a column that is neither of a location
nor of a time gets no value. -/
def setObservationValue (rowNum : Nat) (geoid : ByteString) (entry : ExtParamIndexEntry) :
    Except ObsFailure ObsData :=
  let name := entry.p.name
  let precision := (ctx.names.getMeteoParameterOptions name).precision
  if 0 ≤ entry.p.ind then
    .ok ⟨some (ctx.text precision entry.p.ind.toNat rowNum),
      entry.qc.map fun qc => ctx.text 0 qc.ind.toNat rowNum⟩
  else
    match sites.find geoid with
    | none => .error (.unknownSite geoid)
    | some none => .ok ⟨some ctx.request.missingText, none⟩
    | some (some geoLoc) =>
        if ctx.names.isLocationParameter name then do
          let val ← ask (ctx.services.locationParameter geoLoc name ctx.request.tzName precision)
          return ⟨some val, none⟩
        else if ctx.names.isTimeParameter name then do
          let val ← ask (ctx.services.timeParameter name (ctx.result.time rowNum) geoLoc
            ctx.request.tzName)
          return ⟨some val, none⟩
        else .ok ⟨none, none⟩

/-- A row of `set_site_observations`; the place and its texts are of the first row. -/
def setRowObservations (row1 rowNum : Nat) : Except ObsFailure ObsRecord := do
  let latitude := ctx.text 5 latInd row1
  let longitude := ctx.text 5 lonInd row1
  let geoid := ctx.text 5 geoidInd row1
  let tzp ← ask (ctx.services.getTzForSite longitude latitude ctx.request.tzName)
  let coord ← ask (ctx.services.set2DCoord latitude longitude)
  let height := ctx.text 1 heightInd rowNum
  let epoch := ctx.result.time rowNum
  let epochTimeStr ← ask (ctx.services.formatLocalTime epoch tzp)
  let data ← ctx.paramIndex.mapM (setObservationValue ctx sites rowNum geoid)
  return {
    coord
    height :=
      if ctx.request.showHeight then some (if height = [] then ctx.request.missingText else height)
      else none
    epochTime := ctx.services.epochTime epoch
    epochTimeStr
    data }

/-- `set_site_observations`. -/
def setSiteObservations (site : SiteRec) : Except ObsFailure (List ObsRecord) :=
  match site.rowIndexVect.head? with
  | none => .error .outOfRange
  | some row1 => site.rowIndexVect.mapM (setRowObservations ctx sites row1)

/-- `at` of a map. -/
def atKey {κ ν : Type} [LinearOrder κ] (map : OrderedMap κ ν) (key : κ) : Except ObsFailure ν :=
  match map.find key with
  | none => .error .outOfRange
  | some value => .ok value

/-- `set_group_info`. -/
def setObsGroupInfo (group : GroupRec) : Except ObsFailure (List ObsParamInfo) :=
  ctx.paramIndex.mapM fun entry => do
    let featureId ← atKey group.paramIds entry.p.name
    return ⟨entry.p.sensorName.getD entry.p.name, featureId, isQCParameter entry.p.name⟩

/-- A group: its parameters, then the observations of its sites. -/
def setGroup (assignment : Assignment) (groupId : Nat) : Except ObsFailure ObsGroup := do
  let group ← atKey assignment.groupMap groupId
  let obsParamList ← setObsGroupInfo ctx group
  let observations ← (assignment.siteMap.entries.filter fun item => item.2.groupId = groupId).mapM
    fun item => setSiteObservations ctx sites item.2
  return ⟨group.featureId, obsParamList, observations.flatten⟩

/-- The result written, from the index of its sites on. -/
def writeResult (separateGroups : Bool) (featureId : FeatureID) : Except ObsFailure ObsHash := do
  let siteMap := indexSites ctx.visitor ctx.result
  let numGroups :=
    if separateGroups then siteMap.entries.length else if siteMap.entries = [] then 0 else 1
  let assignment := assignGroups separateGroups siteMap featureId ctx.request.paramNames
  let list ← setStationList ctx assignment.siteMap
  let groups ← (List.range numGroups).mapM (setGroup ctx list.sites assignment)
  return ⟨list.stations, groups⟩

end

/-- The parts of a handler and a query that the writing of the result depends on. -/
structure ObsQuery (Cell : Type) where
  names : ObsNames
  separateGroups : Bool
  visitor : StringVisitor Cell
  request : ObsRequest
  featureId : FeatureID

section

variable {Cell Time Location TimeZone : Type}

/-- What the result is made of. -/
def ObsQuery.context (query : ObsQuery Cell) (services : ObsServices Time Location TimeZone)
    (result : ObsResult Cell Time) (added : AddedParameters) :
    ResultContext Cell Time Location TimeZone where
  names := query.names
  services := services
  result := result
  visitor := query.visitor query.request.missingText
  request := query.request
  paramIndex := added.queried.paramIndex

/-- `query`, from its parameters on, with the result that the engine gives. Without any
result nothing is written. -/
def ObsQuery.run (query : ObsQuery Cell) (services : ObsServices Time Location TimeZone)
    (result : Option (ObsResult Cell Time)) : Except ObsFailure ObsHash := do
  let added ← addParameters query.names query.request
  if added.haveMeteoParam then
    match result with
    | none => return ⟨[], []⟩
    | some result =>
        writeResult (query.context services result added) query.separateGroups query.featureId
  else .error .noMeteoParameter

end

end SmartMetWfs.Handlers
