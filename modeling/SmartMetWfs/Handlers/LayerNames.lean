import SmartMetWfs.Core.ByteString
import SmartMetWfs.Foundation.OrderedMap
import SmartMetWfs.Foundation.Outcomes

/-!
# Names of the layers

`StoredGeoserverQueryHandler` reads three maps from its configuration: the layers by their
names as written, the aliases in lower case, and the parameter names of the layers, which
are entered under the layer names in lower case and looked up under the names as written.
-/

namespace SmartMetWfs.Handlers

open Foundation

/-- An item of `layerMap`. -/
structure LayerItem where
  name : ByteString
  dbTable : Option ByteString
  aliases : List ByteString
  deriving DecidableEq

/-- An item of `layerParamNameMap`. -/
structure LayerParamItem where
  layer : ByteString
  param : ByteString
  deriving DecidableEq

/-- What the handler reads of its configuration about layers. -/
structure LayerConfig where
  layerDbTableNameFormat : Option ByteString
  layerMap : Option (List LayerItem)
  layerParamNameMap : List LayerParamItem

/-- The maps of the handler. -/
structure LayerNames where
  layerDbTableNameFormat : Option ByteString
  layerMap : OrderedMap ByteString ByteString
  layerAliasMap : OrderedMap ByteString ByteString
  layerParamNameMap : OrderedMap ByteString ByteString

/-- Why a configuration is not accepted. -/
inductive LayerConfigError
  | tooShort (path : ByteString)
  | duplicateName (name : ByteString)
  | duplicateAlias (name : ByteString)
  deriving DecidableEq

/-- `quote_db_table` -/
def quoteDbTable (dbTable : ByteString) : ByteString :=
  let scheme := dbTable.takeWhile fun byte => byte ≠ 46
  let table := dbTable.drop (scheme.length + 1)
  if scheme ≠ [] ∧ table ≠ [] then
    ascii "\"" ++ scheme ++ ascii "\".\"" ++ table ++ ascii "\""
  else dbTable

/-- The body of the loop over the aliases of a layer. -/
def readAlias (name : ByteString) (layerAliasMap : OrderedMap ByteString ByteString)
    (given : ByteString) : Except LayerConfigError (OrderedMap ByteString ByteString) :=
  if (layerAliasMap.find (asciiTolowerCopy given)).isSome then .error (.duplicateAlias given)
  else .ok (layerAliasMap.set (asciiTolowerCopy given) name)

/-- The body of the loop of `read_layer_map`. -/
def readLayerItem
    (maps : OrderedMap ByteString ByteString × OrderedMap ByteString ByteString)
    (item : LayerItem) :
    Except LayerConfigError (OrderedMap ByteString ByteString × OrderedMap ByteString ByteString) :=
  let dbTable := quoteDbTable (item.dbTable.getD (ascii "mosaic." ++ item.name))
  if (maps.1.find item.name).isSome then .error (.duplicateName item.name)
  else do
    let layerAliasMap ← item.aliases.foldlM (readAlias item.name) maps.2
    .ok (maps.1.set item.name dbTable, layerAliasMap)

/-- `read_layer_map` -/
def readLayerMap (items : List LayerItem) :
    Except LayerConfigError (OrderedMap ByteString ByteString × OrderedMap ByteString ByteString) :=
  if items = [] then .error (.tooShort (ascii "layerMap"))
  else items.foldlM readLayerItem (.empty, .empty)

/-- The body of the loop of `read_layer_param_name_map`. Layers missing from the layer map are
added to it. -/
def readLayerParam (names : LayerNames) (item : LayerParamItem) :
    Except LayerConfigError LayerNames :=
  if (names.layerParamNameMap.find item.layer).isSome then .error (.duplicateName item.layer)
  else .ok
    { names with
      layerParamNameMap :=
        names.layerParamNameMap.emplace (asciiTolowerCopy item.layer) (asciiTolowerCopy item.param)
      layerMap :=
        if names.layerDbTableNameFormat.isSome then names.layerMap
        else names.layerMap.emplace item.layer (quoteDbTable (ascii "mosaic." ++ item.layer)) }

/-- `read_layer_param_name_map` -/
def readLayerParamNameMap (names : LayerNames) (items : List LayerParamItem) :
    Except LayerConfigError LayerNames :=
  if items = [] then .error (.tooShort (ascii "layerParamNameMap"))
  else items.foldlM readLayerParam names

/-- The part of the constructor that decides on the database tables of the layers. -/
def LayerConfig.readTables (config : LayerConfig) : Except LayerConfigError LayerNames :=
  match config.layerDbTableNameFormat, config.layerMap with
  | some format, _ => .ok ⟨some format, .empty, .empty, .empty⟩
  | none, some items => do
      let (layerMap, layerAliasMap) ← readLayerMap items
      .ok ⟨none, layerMap, layerAliasMap, .empty⟩
  | none, none => .ok ⟨some (ascii "mosaic.%1%"), .empty, .empty, .empty⟩

/-- The part of the constructor that reads the layers. -/
def LayerConfig.read (config : LayerConfig) : Except LayerConfigError LayerNames := do
  let names ← config.readTables
  readLayerParamNameMap names config.layerParamNameMap

/-- The body of the loop of `resolve_layer_aliases`. -/
def LayerNames.resolveLayer (names : LayerNames) (layer : ByteString) :
    Except ByteString ByteString :=
  match names.layerAliasMap.find (asciiTolowerCopy layer) with
  | some name => .ok name
  | none =>
      if (names.layerParamNameMap.find layer).isSome then .ok layer
      else .error (ascii "Parameter configuration for layer '" ++ layer ++ ascii "' not found!")

/-- `resolve_layer_aliases` -/
def LayerNames.resolveLayerAliases (names : LayerNames) (layers : List ByteString) :
    Except ByteString (List ByteString) := layers.mapM names.resolveLayer

/-- The value that `layer_parameters` adds for `layerParam`, if any. -/
def LayerNames.layerParam (names : LayerNames) (layer : ByteString) : Option ByteString :=
  names.layerParamNameMap.find layer

namespace LayerConfig

/-- The items of `layerMap`. It is ignored if a format is given. -/
def layerItems (config : LayerConfig) : List LayerItem :=
  if config.layerDbTableNameFormat.isSome then [] else config.layerMap.getD []

/-! ### What is asked for -/

/-- A name of a listed layer: the layer or an alias of it, in any letter case. -/
def Names (config : LayerConfig) (spelling layer : ByteString) : Prop :=
  (∃ item ∈ config.layerParamNameMap, item.layer = layer) ∧
    (asciiTolowerCopy spelling = asciiTolowerCopy layer ∨
      ∃ item ∈ config.layerItems, item.name = layer ∧
        ∃ given ∈ item.aliases, asciiTolowerCopy given = asciiTolowerCopy spelling)

/-- Neither a layer nor an alias. -/
def Unknown (config : LayerConfig) (spelling : ByteString) : Prop :=
  (∀ item ∈ config.layerParamNameMap, asciiTolowerCopy item.layer ≠ asciiTolowerCopy spelling) ∧
    ∀ item ∈ config.layerItems, asciiTolowerCopy item.name ≠ asciiTolowerCopy spelling ∧
      ∀ given ∈ item.aliases, asciiTolowerCopy given ≠ asciiTolowerCopy spelling

/-- No two listed layers are equal up to letter case, names are resolved to their layers and
layers found under them, and other names are rejected. -/
structure Usable (config : LayerConfig) (names : LayerNames) : Prop where
  distinct : (config.layerParamNameMap.map fun item => asciiTolowerCopy item.layer).Nodup
  resolved : ∀ requested layers, List.Forall₂ config.Names requested layers →
    names.resolveLayerAliases requested = .ok layers
  params : ∀ item ∈ config.layerParamNameMap,
    names.layerParam item.layer = some (asciiTolowerCopy item.param)
  rejected : ∀ requested, (∃ spelling ∈ requested, config.Unknown spelling) →
    ∃ failure, names.resolveLayerAliases requested = .error failure

/-- Where the three maps agree: the listed layers are written in lower case, without two that
are equal, and each is an alias of itself, or has no letters and is no alias. -/
structure MapsAgree (config : LayerConfig) : Prop where
  distinct : (config.layerParamNameMap.map fun item => asciiTolowerCopy item.layer).Nodup
  lowerCase : ∀ item ∈ config.layerParamNameMap, asciiTolowerCopy item.layer = item.layer
  found : ∀ item ∈ config.layerParamNameMap,
    (∃ layer ∈ config.layerItems, layer.name = item.layer ∧
      ∃ given ∈ layer.aliases, asciiTolowerCopy given = item.layer) ∨
    (hasLetter item.layer = false ∧ ∀ layer ∈ config.layerItems,
      ∀ given ∈ layer.aliases, asciiTolowerCopy given ≠ item.layer)

end LayerConfig

/-! ### What is read -/

/-- The aliases of a layer that have been entered. -/
theorem readAliases_meets (name : ByteString) (aliases : List ByteString)
    (layerAliasMap : OrderedMap ByteString ByteString) :
    Meets (fun _ => True) (aliases.foldlM (readAlias name) layerAliasMap) fun after =>
      ∀ key value, after.find key = some value ↔ layerAliasMap.find key = some value ∨
        (name = value ∧ ∃ given ∈ aliases, asciiTolowerCopy given = key) := by
  refine Meets.foldlM (fun done (after : OrderedMap ByteString ByteString) => ∀ key value,
    after.find key = some value ↔ layerAliasMap.find key = some value ∨
      (name = value ∧ ∃ given ∈ done, asciiTolowerCopy given = key)) aliases ?_ ?_
  · intro key value
    simp
  · intro done given rest after _ entered
    unfold readAlias
    split
    · exact trivial
    · next fresh =>
        rw [Bool.not_eq_true, Option.isSome_eq_false_iff, Option.isNone_iff_eq_none] at fresh
        refine Meets.ok fun key value => ?_
        rw [OrderedMap.find_set]
        by_cases same : key = asciiTolowerCopy given
        · subst same
          have absent := not_congr (entered (asciiTolowerCopy given) value)
          rw [fresh] at absent
          have neither := absent.mp nofun
          rw [if_pos rfl, Option.some.injEq]
          constructor
          · exact fun isName => .inr ⟨isName, given, by simp, rfl⟩
          · rintro (old | ⟨isName, _⟩)
            · exact absurd (.inl old) neither
            · exact isName
        · rw [if_neg same, entered]
          refine or_congr_right (and_congr_right fun _ => ⟨?_, ?_⟩)
          · rintro ⟨other, member, isKey⟩
            exact ⟨other, List.mem_append_left _ member, isKey⟩
          · rintro ⟨other, member, isKey⟩
            rcases List.mem_append.mp member with old | last
            · exact ⟨other, old, isKey⟩
            · cases List.mem_singleton.mp last
              exact absurd isKey.symm same

/-- The alias map holds the aliases of the layers, in lower case. -/
theorem readLayerMap_meets (items : List LayerItem) :
    Meets (fun _ => True) (readLayerMap items) fun maps =>
      ∀ key value, maps.2.find key = some value ↔
        ∃ item ∈ items, item.name = value ∧ ∃ given ∈ item.aliases,
          asciiTolowerCopy given = key := by
  unfold readLayerMap
  split
  · exact trivial
  refine Meets.foldlM
    (fun done (maps : OrderedMap ByteString ByteString × OrderedMap ByteString ByteString) =>
    ∀ key value, maps.2.find key = some value ↔
      ∃ item ∈ done, item.name = value ∧ ∃ given ∈ item.aliases, asciiTolowerCopy given = key)
    items ?_ ?_
  · intro key value
    simp [OrderedMap.find, OrderedMap.empty]
  · intro done item rest maps _ entered
    unfold readLayerItem
    split
    · exact trivial
    · refine (readAliases_meets item.name item.aliases maps.2).bind fun after aliases => ?_
      refine Meets.ok fun key value => ?_
      simp only [aliases, entered, List.mem_append, List.mem_singleton, or_and_right, exists_or,
        exists_eq_left]

/-- The first item of a layer counts, up to letter case. -/
theorem readLayerParamNameMap_meets (names : LayerNames) (items : List LayerParamItem)
    (empty : names.layerParamNameMap = .empty) :
    Meets (fun _ => True) (readLayerParamNameMap names items) fun after =>
      after.layerAliasMap = names.layerAliasMap ∧ ∀ key, after.layerParamNameMap.find key =
        (items.find? fun item => asciiTolowerCopy item.layer = key).map
          fun item => asciiTolowerCopy item.param := by
  unfold readLayerParamNameMap
  split
  · exact trivial
  refine Meets.foldlM (fun done (after : LayerNames) =>
    after.layerAliasMap = names.layerAliasMap ∧ ∀ key, after.layerParamNameMap.find key =
      (done.find? fun item => asciiTolowerCopy item.layer = key).map
        fun item => asciiTolowerCopy item.param) items ?_ ?_
  · refine ⟨rfl, fun key => ?_⟩
    rw [empty]
    rfl
  · rintro done item rest after _ ⟨aliases, entered⟩
    unfold readLayerParam
    split
    · exact trivial
    · refine Meets.ok ⟨aliases, fun key => ?_⟩
      rw [OrderedMap.find_emplace, entered, List.find?_append]
      by_cases same : asciiTolowerCopy item.layer = key
      · cases done.find? fun item => asciiTolowerCopy item.layer = key <;> simp [same]
      · cases done.find? fun item => asciiTolowerCopy item.layer = key <;> simp [same, Ne.symm same]

namespace LayerConfig

/-- What an accepted configuration has been read into. -/
structure ReadInto (config : LayerConfig) (names : LayerNames) : Prop where
  aliases : ∀ key value, names.layerAliasMap.find key = some value ↔
    ∃ item ∈ config.layerItems, item.name = value ∧
      ∃ given ∈ item.aliases, asciiTolowerCopy given = key
  params : ∀ key, names.layerParamNameMap.find key =
    (config.layerParamNameMap.find? fun item => asciiTolowerCopy item.layer = key).map
      fun item => asciiTolowerCopy item.param

/-- The tables have no parameter names yet. -/
theorem readTables_meets (config : LayerConfig) :
    Meets (fun _ => True) config.readTables fun names => names.layerParamNameMap = .empty ∧
      ∀ key value, names.layerAliasMap.find key = some value ↔
        ∃ item ∈ config.layerItems, item.name = value ∧
          ∃ given ∈ item.aliases, asciiTolowerCopy given = key := by
  have noAliases : ∀ key value : ByteString,
      (OrderedMap.empty : OrderedMap ByteString ByteString).find key = some value ↔
        ∃ item ∈ ([] : List LayerItem), item.name = value ∧
          ∃ given ∈ item.aliases, asciiTolowerCopy given = key :=
    fun _ _ => iff_of_false nofun fun ⟨_, member, _⟩ => List.not_mem_nil member
  obtain ⟨format, layerMap, layerParamNameMap⟩ := config
  cases format with
  | some format => exact Meets.ok ⟨rfl, noAliases⟩
  | none =>
      cases layerMap with
      | none => exact Meets.ok ⟨rfl, noAliases⟩
      | some items =>
          refine (readLayerMap_meets items).bind fun maps aliases => ?_
          exact Meets.ok ⟨rfl, aliases⟩

/-- A configuration that is accepted is read into its tables. -/
theorem readInto {config : LayerConfig} {names : LayerNames} (accepted : config.read = .ok names) :
    config.ReadInto names := by
  have meets : Meets (fun _ => True) config.read config.ReadInto := by
    refine (readTables_meets config).bind fun tables ⟨empty, aliases⟩ => ?_
    refine (readLayerParamNameMap_meets tables config.layerParamNameMap empty).imp ?_
    rintro after ⟨sameAliases, params⟩
    exact ⟨fun key value => by rw [sameAliases, aliases], params⟩
  exact meets.of_ok accepted

/-! ### Looking names up -/

variable {config : LayerConfig} {names : LayerNames}

/-- A name of a listed layer is found in the map if it is the lower case form of one. -/
theorem ReadInto.param_isSome (readInto : config.ReadInto names) (key : ByteString) :
    (names.layerParamNameMap.find key).isSome = true ↔
      ∃ item ∈ config.layerParamNameMap, asciiTolowerCopy item.layer = key := by
  rw [readInto.params, Option.isSome_map, List.find?_isSome]
  simp

/-- Without layers that differ in letter case only, each layer has its own parameter. -/
theorem ReadInto.param_of_distinct (readInto : config.ReadInto names)
    (distinct : (config.layerParamNameMap.map fun item => asciiTolowerCopy item.layer).Nodup)
    {item : LayerParamItem} (member : item ∈ config.layerParamNameMap) :
    names.layerParamNameMap.find (asciiTolowerCopy item.layer) =
      some (asciiTolowerCopy item.param) := by
  rw [readInto.params]
  cases found : config.layerParamNameMap.find?
      fun other => asciiTolowerCopy other.layer = asciiTolowerCopy item.layer with
  | none => exact absurd (List.find?_eq_none.mp found item member) (by simp)
  | some other =>
      have sameLayer : asciiTolowerCopy other.layer = asciiTolowerCopy item.layer := by
        simpa using List.find?_some found
      rw [List.inj_on_of_nodup_map distinct (List.mem_of_find?_eq_some found) member sameLayer]
      rfl

/-- What is not an alias is looked for as it is written. -/
theorem resolveLayer_of_not_alias {spelling : ByteString}
    (notAlias : names.layerAliasMap.find (asciiTolowerCopy spelling) = none) :
    names.resolveLayer spelling =
      if (names.layerParamNameMap.find spelling).isSome then .ok spelling
      else .error (ascii "Parameter configuration for layer '" ++ spelling ++
        ascii "' not found!") := by
  unfold LayerNames.resolveLayer
  rw [notAlias]

/-- An alias is resolved to its layer, whatever its case. -/
theorem resolveLayer_of_alias {spelling name : ByteString}
    (isAlias : names.layerAliasMap.find (asciiTolowerCopy spelling) = some name) :
    names.resolveLayer spelling = .ok name := by
  unfold LayerNames.resolveLayer
  rw [isAlias]

/-- A single layer is resolved as in a list of its own. -/
theorem resolveLayer_of_singleton {spelling layer : ByteString}
    (resolved : names.resolveLayerAliases [spelling] = .ok [layer]) :
    names.resolveLayer spelling = .ok layer := by
  cases forall₂_of_mapM resolved with
  | cons first _ => exact first

/-- Several names are resolved one by one. -/
theorem resolveLayerAliases_of_forall₂ {requested layers : List ByteString}
    (all : List.Forall₂ (fun spelling layer => names.resolveLayer spelling = .ok layer)
      requested layers) : names.resolveLayerAliases requested = .ok layers := by
  unfold LayerNames.resolveLayerAliases
  induction all with
  | nil => rfl
  | cons first _ ih =>
      rw [List.mapM_cons, first, ih]
      rfl

/-- Names that are neither layers nor aliases are always rejected. -/
theorem ReadInto.rejects (readInto : config.ReadInto names) {spelling : ByteString}
    (unknown : config.Unknown spelling) :
      ∃ failure, names.resolveLayer spelling = .error failure := by
  have notAlias : names.layerAliasMap.find (asciiTolowerCopy spelling) = none := by
    refine Option.eq_none_iff_forall_ne_some.mpr fun name isAlias => ?_
    obtain ⟨item, member, _, given, inAliases, same⟩ := (readInto.aliases _ _).mp isAlias
    exact (unknown.2 item member).2 given inAliases same
  have notListed : ¬(names.layerParamNameMap.find spelling).isSome = true := by
    rw [readInto.param_isSome]
    rintro ⟨item, member, rfl⟩
    exact unknown.1 item member (asciiTolowerCopy_idempotent _).symm
  rw [resolveLayer_of_not_alias notAlias, if_neg notListed]
  exact ⟨_, rfl⟩

/-- Where the maps agree every alias can be used. -/
theorem MapsAgree.usable (agree : config.MapsAgree) (readInto : config.ReadInto names) :
    config.Usable names where
  distinct := agree.distinct
  params item member := by
    have found := readInto.param_of_distinct agree.distinct member
    rwa [agree.lowerCase item member] at found
  rejected requested := by
    rintro ⟨spelling, member, unknown⟩
    exact mapM_fails_iff.mpr ⟨spelling, member, readInto.rejects unknown⟩
  resolved requested layers all := by
    refine resolveLayerAliases_of_forall₂ (all.imp ?_)
    rintro spelling _ ⟨⟨item, member, rfl⟩, sameSpelling | viaAlias⟩
    · rcases agree.found item member with own | ⟨caseless, notAlias⟩
      · refine resolveLayer_of_alias ((readInto.aliases _ _).mpr ?_)
        rw [sameSpelling, agree.lowerCase item member]
        exact own
      · have same := eq_of_not_hasLetter sameSpelling.symm caseless
        subst same
        have none : names.layerAliasMap.find (asciiTolowerCopy item.layer) = none := by
          refine Option.eq_none_iff_forall_ne_some.mpr fun name isAlias => ?_
          obtain ⟨layer, inItems, _, given, inAliases, sameName⟩ :=
            (readInto.aliases _ _).mp isAlias
          exact notAlias layer inItems given inAliases
            (sameName.trans (agree.lowerCase item member))
        rw [resolveLayer_of_not_alias none, if_pos]
        exact (readInto.param_isSome _).mpr ⟨item, member, agree.lowerCase item member⟩
    · exact resolveLayer_of_alias ((readInto.aliases _ _).mpr viaAlias)

/-- The names of the layers are usable just if the maps agree. -/
theorem usable_iff (accepted : config.read = .ok names) :
    config.Usable names ↔ config.MapsAgree := by
  have readInto := LayerConfig.readInto accepted
  refine ⟨fun usable => ?_, fun agree => agree.usable readInto⟩
  have resolved : ∀ item ∈ config.layerParamNameMap, ∀ spelling,
      asciiTolowerCopy spelling = asciiTolowerCopy item.layer →
        names.resolveLayer spelling = .ok item.layer := fun item member spelling same =>
    resolveLayer_of_singleton (usable.resolved [spelling] [item.layer]
      (.cons ⟨⟨item, member, rfl⟩, .inl same⟩ .nil))
  have lowerCase : ∀ item ∈ config.layerParamNameMap, asciiTolowerCopy item.layer = item.layer := by
    intro item member
    obtain ⟨other, _, same⟩ := (readInto.param_isSome item.layer).mp
      (Option.isSome_iff_exists.mpr ⟨_, usable.params item member⟩)
    rw [← same, asciiTolowerCopy_idempotent]
  refine ⟨usable.distinct, lowerCase, fun item member => ?_⟩
  cases found : names.layerAliasMap.find item.layer with
  | some name =>
      have isAlias : names.layerAliasMap.find (asciiTolowerCopy item.layer) = some name := by
        rw [lowerCase item member, found]
      have same := (resolved item member item.layer rfl).symm.trans (resolveLayer_of_alias isAlias)
      cases same
      exact .inl ((readInto.aliases _ _).mp found)
  | none =>
      refine .inr ⟨?_, fun layer inItems given inAliases same => ?_⟩
      · -- Another spelling would not be found, or as itself.
        by_contra cased
        obtain ⟨other, distinct, same⟩ := exists_other_spelling (Bool.not_eq_false _ ▸ cased)
        have notAlias : names.layerAliasMap.find (asciiTolowerCopy other) = none := by
          rw [same, lowerCase item member, found]
        have found := resolved item member other same
        rw [resolveLayer_of_not_alias notAlias] at found
        split at found
        · exact distinct (Except.ok.inj found)
        · cases found
      · have entered := (readInto.aliases item.layer layer.name).mpr
          ⟨layer, inItems, rfl, given, inAliases, same⟩
        rw [found] at entered
        cases entered

/-- A layer that is an alias of itself. -/
def ownAlias : LayerConfig where
  layerDbTableNameFormat := none
  layerMap := some [⟨ascii "dbz", none, [ascii "Dbz", ascii "reflectivity"]⟩]
  layerParamNameMap := [⟨ascii "dbz", ascii "DBZ"⟩]

/-- A layer that is its own alias can be used. -/
theorem ownAlias_usable : ∃ names, ownAlias.read = .ok names ∧ ownAlias.Usable names := by
  refine ⟨_, rfl, (usable_iff rfl).mpr ⟨?_, ?_, ?_⟩⟩
  · exact List.nodup_singleton _
  · exact List.forall_mem_singleton.mpr (by decide)
  · exact List.forall_mem_singleton.mpr (.inl (by decide))

/-- A layer with a capital letter, and none of the optional entries. -/
def capitalLayer : LayerConfig where
  layerDbTableNameFormat := none
  layerMap := none
  layerParamNameMap := [⟨ascii "Dbz", ascii "dbz"⟩]

/-- The layer is refused under its own name, and its parameter is not found. -/
theorem capitalLayer_refused : ∃ names, capitalLayer.read = .ok names ∧
    names.resolveLayerAliases [ascii "Dbz"] =
      .error (ascii "Parameter configuration for layer 'Dbz' not found!") ∧
    names.layerParam (ascii "Dbz") = none ∧ ¬capitalLayer.Usable names := by
  refine ⟨_, rfl, by decide, by decide, fun usable => ?_⟩
  have found := usable.params ⟨ascii "Dbz", ascii "dbz"⟩ List.mem_cons_self
  exact absurd found (by decide)

end LayerConfig

end SmartMetWfs.Handlers
