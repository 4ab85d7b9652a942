import Mathlib.Data.Rat.Lemmas
import SmartMetWfs.Handlers.RowReversal

/-!
# Sparse grids

The points of a grid come row by row in one list. `getDataIndexExtents` guesses the length of
the rows from the first jump between points, `makeSparseGrid` keeps the points at multiples of
the data step, and the extents are guessed again from these. `rearrangeGrid` then turns the
order of the rows around.
-/

namespace SmartMetWfs.Handlers

/-- A point by its degrees. -/
structure LonLat where
  lon : ℚ
  lat : ℚ
  deriving DecidableEq

/-- Why there is no grid. -/
inductive SparseGridFailure
  /-- The data step must be positive. -/
  | noDataStep
  /-- No data available for the producer. -/
  | noData
  /-- Empty result grid, check data extents. -/
  | emptyResultGrid
  /-- Grid sizes of less than 2 are not supported. -/
  | tooSmall
  /-- The rows cannot be turned around. -/
  | rearranging (fault : RowReversal.Fault)
  /-- The number of points is divided by zero. -/
  | noRowLength
  deriving DecidableEq

/-- The code reports the failure as an error. -/
def SparseGridFailure.isReported : SparseGridFailure → Bool
  | .rearranging (.notMultiple _) => true
  | .rearranging (.access _) => false
  | .rearranging .undefined => false
  | .noRowLength => false
  | _ => true

/-- The square of the distance. -/
def comparisonDistance (first second : LonLat) : ℚ :=
  (first.lon - second.lon) * (first.lon - second.lon) +
    (first.lat - second.lat) * (first.lat - second.lat)

/-- The points behind `previous` until one is farther away than the distance. -/
def pointsInRow (compDistance : ℚ) : LonLat → List LonLat → Nat
  | _, [] => 0
  | previous, this :: rest =>
      if comparisonDistance previous this > compDistance then 0
      else pointsInRow compDistance this rest + 1

/-- The result of `getDataIndexExtents` for a first row with so many of the points. Its length
becomes an `unsigned int`, and so does what the division gives. -/
def extentsOf (rowLength size : Nat) : Except SparseGridFailure (UInt32 × UInt32) :=
  let first := UInt32.ofNat rowLength
  if first = 0 then .error .noRowLength else .ok (first, UInt32.ofNat (size / first.toNat))

/-- `StoredGridQueryHandler::getDataIndexExtents`. The distance has a tenth of slack. -/
def getDataIndexExtents (longitudes latitudes : List LonLat) :
    Except SparseGridFailure (UInt32 × UInt32) :=
  match longitudes.map LonLat.lon, latitudes.map LonLat.lat with
  | [], _ => .error .noData
  | _, [] => .error .noData
  | [_], _ => .error .emptyResultGrid
  | _, [_] => .error .emptyResultGrid
  | firstLon :: secondLon :: lons, firstLat :: secondLat :: lats =>
      let compDistance := comparisonDistance ⟨firstLon, firstLat⟩ ⟨secondLon, secondLat⟩ * (11 / 10)
      extentsOf
        (2 + pointsInRow compDistance ⟨secondLon, secondLat⟩ (List.zipWith LonLat.mk lons lats))
        longitudes.length

/-- `makeSparseGrid` -/
def makeSparseGrid {α : Type} (inputGrid : List α) (step : Nat) (extents : UInt32 × UInt32) :
    List α :=
  (inputGrid.zipIdx.filter fun item =>
    decide (item.2 / extents.1.toNat % step = 0) &&
      decide (item.2 % extents.1.toNat % step = 0)).map Prod.fst

/-- What `extract_forecast` sets of its result, for the values of one time. -/
structure SparseGridResult where
  xdim : UInt32
  ydim : UInt32
  llLon : ℚ
  urLon : ℚ
  llLat : ℚ
  urLat : ℚ
  grid : Grid

/-- `set_grid_corners`: the first and the last coordinate. -/
def gridCorners (locationVec : List ℚ) : Except SparseGridFailure (ℚ × ℚ) :=
  match locationVec with
  | first :: second :: rest => .ok (first, (second :: rest).getLast (List.cons_ne_nil _ _))
  | _ => .error .tooSmall

/-- The first part of `extract_forecast`: the extents of the grid, and the result without
values. -/
def extractExtents (longitudeData latitudeData : List LonLat) (dataStep : Nat) :
    Except SparseGridFailure ((UInt32 × UInt32) × SparseGridResult) := do
  if dataStep < 1 then throw .noDataStep
  let extents ← getDataIndexExtents longitudeData latitudeData
  let longitudeData := makeSparseGrid longitudeData dataStep extents
  let latitudeData := makeSparseGrid latitudeData dataStep extents
  let resultingExtents ← getDataIndexExtents longitudeData latitudeData
  let lons ← gridCorners (longitudeData.map LonLat.lon)
  let lats ← gridCorners (latitudeData.map LonLat.lat)
  return (extents, ⟨resultingExtents.1, resultingExtents.2, lons.1, lons.2, lats.1, lats.2, []⟩)

/-- The result with its values, when they can be turned around. -/
def SparseGridResult.withGrid (result : SparseGridResult) :
    Except RowReversal.Fault Grid → Except SparseGridFailure SparseGridResult
  | .error fault => .error (.rearranging fault)
  | .ok grid => .ok { result with grid }

/-- The grid of `extract_forecast`: `val` are the values at the points, as they are written.
There is nothing where the loop of `rearrangeGrid` has more rounds than these; its width is an
`int`. -/
def extractGrid (rounds : Nat) (longitudeData latitudeData : List LonLat) (val : List ByteString)
    (dataStep : Nat) : Option (Except SparseGridFailure SparseGridResult) :=
  match extractExtents longitudeData latitudeData dataStep with
  | .error failure => some (.error failure)
  | .ok (extents, result) =>
      (RowReversal.rearrangeGrid rounds (makeSparseGrid val dataStep extents)
        result.xdim.toInt32).map result.withGrid

end SmartMetWfs.Handlers
