import Mathlib.Data.List.Nodup
import SmartMetWfs.Core.ByteString
import SmartMetWfs.Foundation.Outcomes

/-!
# Names of the parameters in grid queries

For each level `extract_forecast` pushes one block of data for each requested parameter,
but the name and the number of a parameter only if they are not in their list yet. `query`
then goes through the blocks of a level and through this list with one index.
-/

namespace SmartMetWfs.Handlers

open Foundation

/-- `name()` and `number()` of a parameter. -/
structure GridParameter where
  name : ByteString
  number : Int
  deriving DecidableEq

/-- The entry of a parameter in `paramInfos`. -/
def GridParameter.info (param : GridParameter) : ByteString × Int := (param.name, param.number)

/-- `add_param_info` -/
def addParamInfo (paramInfos : List (ByteString × Int)) (param : GridParameter) :
    List (ByteString × Int) :=
  if param.info ∈ paramInfos then paramInfos else paramInfos ++ [param.info]

/-- The part of the result that `query` writes as blocks. -/
structure GridResult (Block : Type) where
  paramInfos : List (ByteString × Int)
  dataLevels : List (List Block)

section

variable {Block : Type}

/-- The requested parameters: `parse_params`, and the coordinates for the debug format. -/
def dataParams (parse : ByteString → GridParameter) (names : List ByteString)
    (includeDebugData : Bool) : List GridParameter :=
  names.map parse ++
    if includeDebugData then [parse (ascii "longitude"), parse (ascii "latitude")] else []

/-- The body of the loop over the parameters. The level is the last of the result. -/
def extractParameter (values : Int → GridParameter → Block) (level : Int)
    (state : List (ByteString × Int) × List Block) (param : GridParameter) :
    List (ByteString × Int) × List Block :=
  (addParamInfo state.1 param, state.2 ++ [values level param])

/-- The body of the loop over the levels of the model. -/
def extractLevel (values : Int → GridParameter → Block) (params : List GridParameter)
    (levels : List Int) (result : GridResult Block) (level : Int) : GridResult Block :=
  if levels = [] ∨ level ∈ levels then
    let (paramInfos, thisLevel) :=
      params.foldl (extractParameter values level) (result.paramInfos, [])
    ⟨paramInfos, result.dataLevels ++ [thisLevel]⟩
  else result

/-- The levels of the model that are asked for. -/
def wantedLevels (levels modelLevels : List Int) : List Int :=
  modelLevels.filter fun level => levels = [] ∨ level ∈ levels

/-- The loops of `extract_forecast`. The values of a parameter on a level are given. -/
def extractForecast (values : Int → GridParameter → Block) (params : List GridParameter)
    (levels modelLevels : List Int) : GridResult Block :=
  modelLevels.foldl (extractLevel values params levels) ⟨[], []⟩

/-- The loop of `query` over the blocks of a level. Nothing is known of an access behind the
end of `paramInfos`. -/
def writeLevel (paramInfos : List (ByteString × Int)) :
    Nat → List Block → Option (List ((ByteString × Int) × Block))
  | _, [] => some []
  | paramIndex, param :: leveldata => do
      let paramInfo ← paramInfos[paramIndex]?
      let rest ← writeLevel paramInfos (paramIndex + 1) leveldata
      return (paramInfo, param) :: rest

/-- The loop of `query` over the levels. -/
def writeLevels (result : GridResult Block) : Option (List (List ((ByteString × Int) × Block))) :=
  result.dataLevels.mapM (writeLevel result.paramInfos 0)

/-- Every level has one block for each parameter, under the name and number of that one. -/
def BlocksLabelled (values : Int → GridParameter → Block) (params : List GridParameter)
    (levels modelLevels : List Int) : Prop :=
  writeLevels (extractForecast values params levels modelLevels) =
    some ((wantedLevels levels modelLevels).map fun level =>
      params.map fun param => (param.info, values level param))

/-! ### The list of names -/

/-- No parameter is listed twice. -/
theorem foldl_addParamInfo_nodup {paramInfos : List (ByteString × Int)}
    (distinct : paramInfos.Nodup)
    (params : List GridParameter) : (params.foldl addParamInfo paramInfos).Nodup := by
  induction params generalizing paramInfos with
  | nil => exact distinct
  | cons param params ih =>
      apply ih
      unfold addParamInfo
      split
      · exact distinct
      · next fresh => exact List.nodup_append.mpr ⟨distinct, List.nodup_singleton _, by
          rintro info member _ isInfo rfl
          exact fresh (List.mem_singleton.mp isInfo ▸ member)⟩

/-- Parameters that are listed are not added. -/
theorem foldl_addParamInfo_known {paramInfos : List (ByteString × Int)}
    {params : List GridParameter}
    (known : ∀ param ∈ params, param.info ∈ paramInfos) :
    params.foldl addParamInfo paramInfos = paramInfos := by
  induction params with
  | nil => rfl
  | cons param params ih =>
      rw [List.foldl_cons, addParamInfo, if_pos (known param List.mem_cons_self)]
      exact ih fun other member => known other (List.mem_cons_of_mem param member)

/-- Parameters that are all different are all entered. -/
theorem foldl_addParamInfo_fresh {paramInfos : List (ByteString × Int)}
    {params : List GridParameter}
    (distinct : (paramInfos ++ params.map GridParameter.info).Nodup) :
    params.foldl addParamInfo paramInfos = paramInfos ++ params.map GridParameter.info := by
  induction params generalizing paramInfos with
  | nil => exact (List.append_nil paramInfos).symm
  | cons param params ih =>
      rw [List.map_cons, List.append_cons] at distinct ⊢
      have fresh : param.info ∉ paramInfos := fun member =>
        List.disjoint_of_nodup_append (List.nodup_append.mp distinct).1 member List.mem_cons_self
      rw [List.foldl_cons, addParamInfo, if_neg fresh]
      exact ih distinct

/-- The list does not change any more after the first level. -/
theorem foldl_addParamInfo_mem (params : List GridParameter)
    (paramInfos : List (ByteString × Int)) :
    (∀ info ∈ paramInfos, info ∈ params.foldl addParamInfo paramInfos) ∧
      ∀ param ∈ params, param.info ∈ params.foldl addParamInfo paramInfos := by
  induction params generalizing paramInfos with
  | nil => exact ⟨fun info member => member, fun param member => (List.not_mem_nil member).elim⟩
  | cons param params ih =>
      obtain ⟨kept, entered⟩ := ih (addParamInfo paramInfos param)
      have added : param.info ∈ addParamInfo paramInfos param ∧
          ∀ info ∈ paramInfos, info ∈ addParamInfo paramInfos param := by
        unfold addParamInfo
        split
        · next known => exact ⟨known, fun info member => member⟩
        · exact ⟨List.mem_append_right _ List.mem_cons_self,
            fun info member => List.mem_append_left _ member⟩
      exact ⟨fun info member => kept info (added.2 info member),
        List.forall_mem_cons.mpr ⟨kept _ added.1, entered⟩⟩

/-! ### The loops -/

variable {values : Int → GridParameter → Block} {params : List GridParameter} {levels : List Int}

/-- The values of a level are those of each parameter. -/
theorem foldl_extractParameter (level : Int) (paramInfos : List (ByteString × Int))
    (thisLevel : List Block) :
      params.foldl (extractParameter values level) (paramInfos, thisLevel) =
      (params.foldl addParamInfo paramInfos, thisLevel ++ params.map (values level)) := by
  induction params generalizing paramInfos thisLevel with
  | nil => rw [List.map_nil, List.append_nil]; rfl
  | cons param params ih =>
      rw [List.foldl_cons, List.foldl_cons, extractParameter, ih, List.map_cons, List.append_assoc,
        List.singleton_append]

/-- The result has the levels that were asked for. -/
theorem foldl_extractLevel (modelLevels : List Int) (result : GridResult Block) :
    modelLevels.foldl (extractLevel values params levels) result =
      ⟨(wantedLevels levels modelLevels).foldl
          (fun paramInfos _ => params.foldl addParamInfo paramInfos) result.paramInfos,
        result.dataLevels ++
          (wantedLevels levels modelLevels).map fun level => params.map (values level)⟩ := by
  induction modelLevels generalizing result with
  | nil =>
      change result = ⟨result.paramInfos, result.dataLevels ++ []⟩
      rw [List.append_nil]
  | cons level modelLevels ih =>
      rw [List.foldl_cons, ih, extractLevel]
      split
      · next wanted =>
          have kept : wantedLevels levels (level :: modelLevels) =
              level :: wantedLevels levels modelLevels :=
                List.filter_cons_of_pos (decide_eq_true wanted)
          rw [kept, foldl_extractParameter, List.map_cons, List.foldl_cons, List.append_assoc]
          rfl
      · next unwanted =>
          have left : wantedLevels levels (level :: modelLevels) =
              wantedLevels levels modelLevels :=
            List.filter_cons_of_neg fun wanted => unwanted (of_decide_eq_true wanted)
          rw [left]

/-- The list is complete after the first level. -/
theorem foldl_levels (infos : List (ByteString × Int)) {more : List Int} (some : more ≠ []) :
    more.foldl (fun paramInfos _ => params.foldl addParamInfo paramInfos) infos =
      params.foldl addParamInfo infos := by
  obtain ⟨level, more, rfl⟩ := List.exists_cons_of_ne_nil some
  rw [List.foldl_cons]
  generalize first : params.foldl addParamInfo infos = after
  have known : ∀ param ∈ params, param.info ∈ after :=
    first ▸ (foldl_addParamInfo_mem params infos).2
  clear some
  induction more with
  | nil => rfl
  | cons level more ih => rw [List.foldl_cons, foldl_addParamInfo_known known, ih]

/-- A level is written under the names that stand in the list from the index on. -/
theorem writeLevel_eq_some {paramInfos : List (ByteString × Int)} {paramIndex : Nat}
    {leveldata : List Block} {written : List ((ByteString × Int) × Block)} :
    writeLevel paramInfos paramIndex leveldata = some written ↔
      written.map Prod.snd = leveldata ∧ written.map Prod.fst <+: paramInfos.drop paramIndex := by
  induction leveldata generalizing paramIndex written with
  | nil =>
      rw [writeLevel, Option.some.injEq, List.map_eq_nil_iff]
      constructor
      · rintro rfl
        exact ⟨rfl, List.nil_prefix⟩
      · exact fun written => written.1.symm
  | cons param leveldata ih =>
      rw [writeLevel]
      constructor
      · intro found
        obtain ⟨paramInfo, isInfo, rest⟩ := Option.bind_eq_some_iff.mp found
        obtain ⟨others, restWritten, whole⟩ := Option.bind_eq_some_iff.mp rest
        obtain ⟨blocks, names⟩ := ih.mp restWritten
        cases whole
        refine ⟨congrArg (param :: ·) blocks, ?_⟩
        rw [List.drop_eq_getElem?_toList_append, isInfo]
        exact List.cons_prefix_cons.mpr ⟨rfl, names⟩
      · rintro ⟨blocks, names⟩
        cases written with
        | nil => cases blocks
        | cons first others =>
            obtain ⟨paramInfo, block⟩ := first
            cases blocks
            cases isInfo : paramInfos[paramIndex]? with
            | none =>
                rw [List.drop_eq_nil_of_le (List.getElem?_eq_none_iff.mp isInfo)] at names
                cases List.prefix_nil.mp names
            | some info =>
                rw [List.drop_eq_getElem?_toList_append, isInfo] at names
                obtain ⟨rfl, namesRest⟩ := List.cons_prefix_cons.mp names
                have rest := ih.mpr ⟨rfl, namesRest⟩
                change (writeLevel paramInfos (paramIndex + 1) (others.map Prod.snd) >>= _) = _
                rw [rest]
                rfl

/-- The blocks are under their own names if and only if there is no level at all or no
parameter is there twice. -/
theorem blocksLabelled_iff (values : Int → GridParameter → Block) (params : List GridParameter)
    (levels modelLevels : List Int) : BlocksLabelled values params levels modelLevels ↔
      wantedLevels levels modelLevels = [] ∨ (params.map GridParameter.info).Nodup := by
  rw [BlocksLabelled, writeLevels, extractForecast, foldl_extractLevel, List.nil_append,
    mapM_eq_some_map]
  by_cases none : wantedLevels levels modelLevels = []
  · rw [none]
    exact ⟨fun _ => .inl rfl, fun _ level member => (List.not_mem_nil member).elim⟩
  · rw [foldl_levels [] none]
    have labelled :
        ∀ level, writeLevel (params.foldl addParamInfo []) 0 (params.map (values level)) =
          some (params.map fun param => (param.info, values level param)) ↔
        params.map GridParameter.info <+: params.foldl addParamInfo [] := by
      intro level
      rw [writeLevel_eq_some, List.map_map, List.map_map, List.drop_zero]
      exact ⟨And.right, fun names => ⟨rfl, names⟩⟩
    constructor
    · intro all
      obtain ⟨level, member⟩ := List.exists_mem_of_ne_nil _ none
      have names := (labelled level).mp (all level member)
      exact .inr ((foldl_addParamInfo_nodup List.nodup_nil params).sublist names.sublist)
    · rintro (isNone | distinct)
      · exact absurd isNone none
      · intro level _
        rw [labelled, foldl_addParamInfo_fresh distinct]
        exact List.prefix_rfl

/-- The parameters of a request, and the coordinates with them for the debug format, must be
all different. -/
theorem requested_blocksLabelled_iff (parse : ByteString → GridParameter)
    (values : Int → GridParameter → Block) (names : List ByteString) (includeDebugData : Bool)
    (levels modelLevels : List Int) :
    BlocksLabelled values (dataParams parse names includeDebugData) levels modelLevels ↔
      wantedLevels levels modelLevels = [] ∨
        ((dataParams parse names includeDebugData).map GridParameter.info).Nodup :=
  blocksLabelled_iff values _ levels modelLevels

/-- A parameter that is requested twice: its second block is written under the name of the
next parameter, and the block of that one under no name at all. -/
theorem repeated_notLabelled :
    let temperature : GridParameter := ⟨ascii "temperature", 4⟩
    let pressure : GridParameter := ⟨ascii "pressure", 1⟩
    let result :=
      extractForecast (fun _ param => param.name) [temperature, temperature, pressure] [] [0]
    result.paramInfos = [temperature.info, pressure.info] ∧
      writeLevel result.paramInfos 0 [temperature.name, temperature.name] =
        some [(temperature.info, temperature.name), (pressure.info, temperature.name)] ∧
      writeLevels result = none ∧
      ¬BlocksLabelled (fun _ param => param.name) [temperature, temperature, pressure] [] [0] :=
  ⟨rfl, rfl, rfl, nofun⟩

end

end SmartMetWfs.Handlers
