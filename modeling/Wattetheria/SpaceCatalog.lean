import Wattetheria.KeyedStore
import Wattetheria.SpacePackage

/-!
# The Space catalog

`SpaceCatalog::from_sources` reads the list of Spaces with the versions of each, loads and
validates every package it names, and checks that each Space's current package, the default
Space and the targets of all current portals are there.  The loader of packages and the
decoding of JSON are parameters.

`Closed` is what such a catalog promises; `fromSources_closed` says every catalog that is
built keeps the promise.
-/

namespace WattSpace

open WattText List

/-- Where a version's package is. -/
structure SpaceCatalogVersion where
  (spaceVersion packagePath assetsPath : String)

/-- A Space and its versions. -/
structure SpaceCatalogEntry where
  (spaceId currentVersion : String)
  versions : List SpaceCatalogVersion

/-- Packages by version. -/
abbrev Versions := Std.ExtTreeMap String SpacePackage

/-- The catalog with its packages. -/
structure SpaceCatalog where
  defaultSpaceId : String
  spaces : List SpaceCatalogEntry
  packages : Std.ExtTreeMap String Versions

namespace SpaceCatalog

def version (catalog : SpaceCatalog) (spaceId version : String) : Option SpacePackage :=
  catalog.packages[spaceId]?.bind fun versions => versions[version]?

variable (catalog : SpaceCatalog) (spaceId : String)

/-- The package of the current version. -/
def current : Option SpacePackage :=
  (catalog.spaces.find? fun entry => entry.spaceId == spaceId).bind fun entry =>
    catalog.version spaceId entry.currentVersion

def currentVersion : Option String :=
  (catalog.spaces.find? fun entry => entry.spaceId == spaceId).map (·.currentVersion)

end SpaceCatalog

/-! ## Building a catalog -/

/-- What building a catalog calls outside the repository. -/
structure CatalogSources where
  crates : SpaceCrates
  /-- `serde_json::from_slice` of a catalog: the default Space and the entries -/
  decodeCatalog : List UInt8 → Except String (String × List SpaceCatalogEntry)
  /-- `serde_json::from_slice` of a package -/
  decodePackage : List UInt8 → Except String SpacePackage
  readPackage : String → Except String (List UInt8)

/-- `is_relative_catalog_path`: no root, and no component that leads to the parent. -/
def isRelativeCatalogPath (path : String) : Bool :=
  path.toList.head? != some '/' && (path.toList.splitOn '/').all (· ≠ ['.', '.'])

variable (sources : CatalogSources) (entry : SpaceCatalogEntry)

/-- One version of an entry: its package, added to those before it. -/
def loadVersion (versions : Versions) (version : SpaceCatalogVersion) : Except String Versions := do
  bailIf (!(isRelativeCatalogPath version.packagePath && isRelativeCatalogPath version.assetsPath))
    "catalog paths must be relative and cannot contain '..'"
  let packageBytes ← sources.readPackage version.packagePath
  let package ← withContext "decode Space package" (sources.decodePackage packageBytes)
  package.validate sources.crates
  bailIf (!(package.spaceId == entry.spaceId && package.spaceVersion == version.spaceVersion))
    "catalog package identity mismatch"
  bailIf (versions.contains version.spaceVersion) "duplicate catalog space version"
  .ok (versions.insert version.spaceVersion package)

/-- The search radius fits the map. -/
def searchable (package : SpacePackage) : Bool :=
  package.movementSearchRadius.any fun radius =>
    0 < radius && radius ≤ max package.size.1 package.size.2

/-- Loads the packages of a Space. -/
def loadEntry (packages : Std.ExtTreeMap String Versions) (entry : SpaceCatalogEntry) :
    Except String (Std.ExtTreeMap String Versions) := do
  bailIf (isEmpty (trim entry.spaceId)) "catalog space ID is required"
  bailIf (packages.contains entry.spaceId) "duplicate catalog space ID"
  let versions ← entry.versions.foldlM (loadVersion sources entry) ∅
  bailIf (!versions.contains entry.currentVersion) "catalog current version is not trusted"
  let current ← okOr "missing current Space package" versions[entry.currentVersion]?
  bailIf (!searchable current)
    "catalog current Space package requires a valid movement_search_radius"
  .ok (packages.insert entry.spaceId versions)

variable (catalog : SpaceCatalog)

/-- A portal of a current package leads to a place of another. -/
def checkPortal (portal : Portal) : Except String Unit := do
  let target ← okOr "unknown portal target Space" (catalog.current portal.targetSpaceId)
  let _ ← okOr "unknown portal target place" (target.place portal.targetPlaceId)

/-- Every portal leads to a place that is there. -/
def checkPortals (entry : SpaceCatalogEntry) : Except String Unit := do
  let package ← okOr "missing current Space package" (catalog.current entry.spaceId)
  package.portals.forM (checkPortal catalog)

/-- Builds the catalog or refuses it. -/
def fromSources (catalogBytes : List UInt8) : Except String SpaceCatalog := do
  let (defaultSpaceId, spaces) ← withContext "decode Space catalog"
    (sources.decodeCatalog catalogBytes)
  let packages ← spaces.foldlM (loadEntry sources) ∅
  let catalog : SpaceCatalog := { defaultSpaceId, spaces, packages }
  bailIf (catalog.current catalog.defaultSpaceId).isNone "catalog default Space is unknown"
  catalog.spaces.forM (checkPortals catalog)
  .ok catalog

/-! ## What a catalog promises -/

/-- A package that may stand for a version of a Space. -/
def Trusted (crates : SpaceCrates) (spaceId spaceVersion : String) (package : SpacePackage) :
    Prop :=
  package.validate crates = .ok () ∧ package.spaceId = spaceId ∧ package.spaceVersion = spaceVersion

/-- The default Space is there, Space ids are unique, and every Space has a current package that
validates, is the one its entry names, can be searched, and leads only to places of current
packages. -/
structure Closed (crates : SpaceCrates) (catalog : SpaceCatalog) : Prop where
  default_known : ∃ entry ∈ catalog.spaces, entry.spaceId = catalog.defaultSpaceId
  ids_unique : (catalog.spaces.map SpaceCatalogEntry.spaceId).Nodup
  entries : ∀ entry ∈ catalog.spaces, ∃ package, catalog.current entry.spaceId = some package
    ∧ Trusted crates entry.spaceId entry.currentVersion package
    ∧ searchable package = true
    ∧ ∀ portal ∈ package.portals, (∃ other ∈ catalog.spaces, other.spaceId = portal.targetSpaceId)
          ∧ ∃ target place, catalog.current portal.targetSpaceId = some target
            ∧ target.place portal.targetPlaceId = some place

variable {sources : CatalogSources} {packages : Std.ExtTreeMap String Versions}

lemma mem_of_current {catalog : SpaceCatalog} {spaceId : String} {package : SpacePackage}
    (h : catalog.current spaceId = some package) :
    ∃ entry ∈ catalog.spaces, entry.spaceId = spaceId := by
  rw [SpaceCatalog.current, Option.bind_eq_some_iff] at h
  obtain ⟨entry, hfind, -⟩ := h
  have hid := List.find?_some hfind
  rw [beq_iff_eq] at hid
  exact ⟨entry, mem_of_find?_eq_some hfind, hid⟩

lemma loadVersions_trusted {entry : SpaceCatalogEntry} {versions : Versions}
    (h : entry.versions.foldlM (loadVersion sources entry) ∅ = .ok versions) :
    ∀ name package, versions[name]? = some package →
      Trusted sources.crates entry.spaceId name package := by
  refine foldlM_eq_ok (P := fun _ (loaded : Versions) => ∀ name package,
    loaded[name]? = some package → Trusted sources.crates entry.spaceId name package)
    ?_ [] ?_ h
  · intro _ loaded version next hloaded hnext
    simp only [loadVersion, bind_eq_ok, bailIf_eq_ok, withContext_eq_ok, Bool.not_eq_eq_eq_not,
      Bool.not_false, Bool.and_eq_true, beq_iff_eq] at hnext
    obtain ⟨_, -, bytes, -, read, -, _, hvalid, _, ⟨hid, hversion⟩, _, -, hinsert⟩ := hnext
    cases hinsert
    exact WattKeyed.forall_insert hloaded ⟨hvalid, hid, hversion⟩
  · intro name package hget
    rw [Std.ExtTreeMap.getElem?_empty] at hget
    cases hget

/-- What is known of the packages once these entries are loaded. -/
structure Loaded (crates : SpaceCrates) (entries : List SpaceCatalogEntry)
    (packages : Std.ExtTreeMap String Versions) : Prop where
  ids_unique : (entries.map SpaceCatalogEntry.spaceId).Nodup
  known : ∀ entry ∈ entries, ∃ versions package, packages[entry.spaceId]? = some versions
    ∧ versions[entry.currentVersion]? = some package
    ∧ Trusted crates entry.spaceId entry.currentVersion package ∧ searchable package = true

lemma loaded_step {entries : List SpaceCatalogEntry} {next : Std.ExtTreeMap String Versions}
    {entry : SpaceCatalogEntry} (h : Loaded sources.crates entries packages)
    (hnext : loadEntry sources packages entry = .ok next) :
    Loaded sources.crates (entries ++ [entry]) next := by
  simp only [loadEntry, bind_eq_ok, bailIf_eq_ok, okOr_eq_ok, Bool.not_eq_eq_eq_not,
    Bool.not_false] at hnext
  obtain ⟨_, -, _, hfresh, versions, hversions, _, -, current, hcurrent, _, hsearchable, hinsert⟩ :=
    hnext
  cases hinsert
  -- an entry loaded before has another id, so its packages are not replaced
  have hother : ∀ old ∈ entries, old.spaceId ≠ entry.spaceId := by
    intro old hold heq
    obtain ⟨_, _, hget, -⟩ := h.known old hold
    rw [Std.ExtTreeMap.contains_eq_isSome_getElem?, ← heq, hget] at hfresh
    cases hfresh
  refine ⟨?_, ?_⟩
  · rw [map_append, nodup_append]
    refine ⟨h.ids_unique, by simp, ?_⟩
    intro id hid id' hid'
    obtain ⟨old, hold, rfl⟩ := mem_map.mp hid
    rw [mem_singleton.mp hid']
    exact hother old hold
  · intro e he
    rcases mem_append.mp he with hold | hnew
    · obtain ⟨vs, package, hget, hrest⟩ := h.known e hold
      refine ⟨vs, package, ?_, hrest⟩
      rw [WattKeyed.getElem?_insert, if_neg (hother e hold)]
      exact hget
    · rw [mem_singleton.mp hnew]
      refine ⟨versions, current, ?_, hcurrent,
        loadVersions_trusted hversions _ _ hcurrent, hsearchable⟩
      rw [WattKeyed.getElem?_insert, if_pos rfl]

lemma loaded_all {spaces : List SpaceCatalogEntry}
    (h : spaces.foldlM (loadEntry sources) ∅ = .ok packages) :
    Loaded sources.crates spaces packages :=
  foldlM_eq_ok (P := Loaded sources.crates) loaded_step [] ⟨nodup_nil, by simp⟩ h

lemma find_entry : ∀ {spaces : List SpaceCatalogEntry} {entry : SpaceCatalogEntry},
    (spaces.map SpaceCatalogEntry.spaceId).Nodup → entry ∈ spaces →
    spaces.find? (fun other => other.spaceId == entry.spaceId) = some entry
  | first :: rest, entry, hnodup, hmem => by
    rw [map_cons, nodup_cons] at hnodup
    rcases mem_cons.mp hmem with rfl | hrest
    · rw [List.find?_cons_of_pos (by simp)]
    · have hne : first.spaceId ≠ entry.spaceId := by
        intro heq
        exact hnodup.1 (heq ▸ mem_map_of_mem hrest)
      rw [List.find?_cons_of_neg (by simpa using hne)]
      exact find_entry hnodup.2 hrest

/-- **CLOSURE**: every catalog that is built keeps its promise. -/
theorem fromSources_closed {catalogBytes : List UInt8} {catalog : SpaceCatalog}
    (h : fromSources sources catalogBytes = .ok catalog) : Closed sources.crates catalog := by
  simp only [fromSources, bind_eq_ok, bailIf_eq_ok, Option.isNone_eq_false_iff] at h
  obtain ⟨⟨defaultSpaceId, spaces⟩, -, packages, hpackages, _, hdefault, _, hportals, hcatalog⟩ := h
  cases hcatalog
  have hloaded := loaded_all hpackages
  obtain ⟨_, hdefault⟩ := Option.isSome_iff_exists.mp hdefault
  refine ⟨mem_of_current hdefault, hloaded.ids_unique, ?_⟩
  intro entry hentry
  obtain ⟨versions, package, hversions, hpackage, htrusted, hsearchable⟩ :=
    hloaded.known entry hentry
  have hcurrent : SpaceCatalog.current ⟨defaultSpaceId, spaces, packages⟩ entry.spaceId
      = some package := by
    rw [SpaceCatalog.current, find_entry hloaded.ids_unique hentry]
    show packages[entry.spaceId]?.bind _ = _
    rw [hversions]
    exact hpackage
  refine ⟨package, hcurrent, htrusted, hsearchable, ?_⟩
  -- the portals are checked against the finished catalog
  have hchecked := forM_eq_ok.mp hportals entry hentry
  simp only [checkPortals, bind_eq_ok, okOr_eq_ok] at hchecked
  obtain ⟨package', hcurrent', hforM⟩ := hchecked
  cases hcurrent.symm.trans hcurrent'
  intro portal hportal
  have hportal' := forM_eq_ok.mp hforM portal hportal
  simp only [checkPortal, bind_eq_ok, okOr_eq_ok] at hportal'
  obtain ⟨target, htarget, place, hplace, -⟩ := hportal'
  exact ⟨mem_of_current htarget, target, place, htarget, hplace⟩

/-! ## Two Spaces that lead to each other -/

/-- A Space of one tile with a portal to another one. -/
def toyPackage (spaceId targetSpaceId : String) : SpacePackage where
  spaceId
  spaceVersion := "sha256:"
  size := (1, 1)
  tileSize := 32
  walkableGrid := [[1]]
  places := [⟨spaceId, none, .world, ⟨"world", "world"⟩, [(0, 0)]⟩]
  spawnPlaceId := spaceId
  walkSpeed := 0x4000000000000000
  movementSearchRadius := some 1
  serviceBindings := []
  portals := [⟨"gate", spaceId, targetSpaceId, targetSpaceId⟩]

def toySources : CatalogSources where
  crates := { canonicalNumbers := WattJsonText.decimalNumbers, sha256 := fun _ => [] }
  decodeCatalog _ := .ok ("east",
    [⟨"east", "sha256:", [⟨"sha256:", "east/package.json", "east"⟩]⟩,
     ⟨"west", "sha256:", [⟨"sha256:", "west/package.json", "west"⟩]⟩])
  decodePackage bytes :=
    if bytes = [0] then .ok (toyPackage "east" "west") else .ok (toyPackage "west" "east")
  readPackage path := .ok (if path = "east/package.json" then [0] else [1])

theorem fromSources_closed_two : ∃ catalog, fromSources toySources [] = .ok catalog
    ∧ catalog.spaces.length = 2 ∧ Closed toySources.crates catalog := by
  have hbuilt : (fromSources toySources []).toOption.map (·.spaces.length) = some 2 := by
    decide +kernel
  cases hcatalog : fromSources toySources [] with
  | error error =>
    rw [hcatalog] at hbuilt
    cases hbuilt
  | ok catalog =>
    rw [hcatalog] at hbuilt
    exact ⟨catalog, rfl, Option.some.inj hbuilt, fromSources_closed hcatalog⟩

end WattSpace
