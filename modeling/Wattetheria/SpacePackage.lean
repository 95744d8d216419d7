import Wattetheria.JsonText

/-!
# Space packages

The map of a Space: a grid of tiles, the places on it, the portals that lead to other
Spaces, and `SpacePackage::validate`, which every map passes before it is used.  Tiles are
pairs of column and row.  A walking speed is kept by the bits of its `f64`.
-/

namespace WattSpace

open WattText WattJson WattJsonText

/-! ## Data -/

/-- Column and row. -/
abbrev Tile := Nat × Nat

/-- `PlaceKind`, in its order. -/
inductive PlaceKind where
  | world
  | sector
  | arena
  | gameObject
  deriving DecidableEq

/-- A name in two languages. -/
structure PlaceName where
  (en zh : String)

/-- A place and its tiles. -/
structure Place where
  placeId : String
  parentPlaceId : Option String
  kind : PlaceKind
  name : PlaceName
  tiles : List Tile

/-- A place served by an agent. -/
structure ServiceBinding where
  (placeId agentId : String)

/-- A way into another Space. -/
structure Portal where
  (portalId sourcePlaceId targetSpaceId targetPlaceId : String)

/-- The map of a Space. -/
structure SpacePackage where
  (spaceId spaceVersion : String)
  size : Nat × Nat
  tileSize : Nat
  walkableGrid : List (List Nat)
  places : List Place
  spawnPlaceId : String
  walkSpeed : UInt64
  movementSearchRadius : Option Nat
  serviceBindings : List ServiceBinding
  portals : List Portal

/-! ## The package as JSON -/

def PlaceKind.text : PlaceKind → String
  | .world => "world"
  | .sector => "sector"
  | .arena => "arena"
  | .gameObject => "game_object"

def natValue (n : Nat) : JsonValue := .number (.posInt n.toUInt64)

def tileValue (tile : Tile) : JsonValue := .array [natValue tile.1, natValue tile.2]

/-- A place in JSON. -/
def Place.value (place : Place) : JsonValue :=
  .object
    [("place_id", .string place.placeId),
     ("parent_place_id", place.parentPlaceId.elim .null .string),
     ("kind", .string place.kind.text),
     ("name", .object [("en", .string place.name.en), ("zh", .string place.name.zh)]),
     ("tiles", .array (place.tiles.map tileValue))]

def ServiceBinding.value (binding : ServiceBinding) : JsonValue :=
  .object [("place_id", .string binding.placeId), ("agent_id", .string binding.agentId)]

/-- A portal in JSON. -/
def Portal.value (portal : Portal) : JsonValue :=
  .object
    [("portal_id", .string portal.portalId), ("source_place_id", .string portal.sourcePlaceId),
     ("target_space_id", .string portal.targetSpaceId),
     ("target_place_id", .string portal.targetPlaceId)]

/-- The fields of a package without `space_version`. -/
def SpacePackage.contentFields (package : SpacePackage) : List (String × JsonValue) :=
  [("space_id", .string package.spaceId), ("size", tileValue package.size),
   ("tile_size", natValue package.tileSize),
   ("walkable_grid", .array (package.walkableGrid.map fun row => .array (row.map natValue))),
   ("places", .array (package.places.map Place.value)),
   ("spawn_place_id", .string package.spawnPlaceId),
   ("walk_speed", .number (.float package.walkSpeed))]
  ++ (package.movementSearchRadius.toList.map fun radius =>
      ("movement_search_radius", natValue radius))
  ++ [("service_bindings", .array (package.serviceBindings.map ServiceBinding.value))]
  ++ (if package.portals.isEmpty then []
      else [("portals", .array (package.portals.map Portal.value))])

/-- The functions of the crates outside the repository. -/
structure SpaceCrates where
  /-- the numbers of `serde_jcs` -/
  canonicalNumbers : NumberText
  sha256 : List UInt8 → List UInt8

/-- The version a package's content has. -/
def contentVersion (crates : SpaceCrates) (package : SpacePackage) : String :=
  "sha256:" ++ hexEncode (crates.sha256 (asBytes (String.ofList
    (canonicalText crates.canonicalNumbers (.object package.contentFields)))))

/-! ## Reading the map -/

/-- `f64::is_finite` and greater than zero, on the bits. -/
def positiveFinite (bits : UInt64) : Bool := 0 < bits.toNat && bits.toNat < 0x7FF0000000000000

namespace SpacePackage

def place (package : SpacePackage) (placeId : String) : Option Place :=
  package.places.find? fun place => place.placeId == placeId

variable (package : SpacePackage)

def isWalkable (tile : Tile) : Bool :=
  tile.1 < package.size.1 && tile.2 < package.size.2
    && (package.walkableGrid[tile.2]?.bind fun row => row[tile.1]?) == some 1

/-! ## Validation -/

/-- The first loop of `validate`; `ids` are the place ids seen so far. -/
def checkPlaces (package : SpacePackage) : List String → List Place → Except String Unit
  | _, [] => .ok ()
  | ids, place :: places => do
      bailIf (isEmpty (trim place.placeId) || ids.contains place.placeId)
        "place IDs must be nonempty and unique"
      bailIf place.tiles.isEmpty s!"place {place.placeId} has no tiles"
      bailIf (!place.tiles.all package.isWalkable)
        s!"place {place.placeId} contains blocked or out-of-bounds tiles"
      bailIf (!decide place.tiles.Nodup) s!"place {place.placeId} contains duplicate tiles"
      checkPlaces package (place.placeId :: ids) places

/-- The kind of a place's parent. -/
def parentKind : PlaceKind → Except String PlaceKind
  | .world => .error "world must not have a parent"
  | .sector => .ok .world
  | .arena => .ok .sector
  | .gameObject => .ok .arena

/-- The second loop of `validate`. -/
def checkParent (place : Place) : Except String Unit :=
  match place.parentPlaceId with
  | some id => do
      let parent ← okOr "unknown parent place" (package.place id)
      let expectedKind ← parentKind place.kind
      bailIf (parent.kind ≠ expectedKind) "invalid place hierarchy"
      bailIf (!place.tiles.all parent.tiles.contains)
        s!"place {place.placeId} contains tiles outside its parent"
  | none =>
    bailIf (!(place.kind == .world && place.placeId == package.spaceId))
      "root place must be the space world"

/-- The loop of `validate` over the bindings. -/
def checkBinding (binding : ServiceBinding) : Except String Unit := do
  bailIf (package.place binding.placeId).isNone "unknown binding place"
  bailIf (isEmpty (trim binding.agentId)) "binding agent ID is required"

/-- `validate_portals`; `ids` are the portal ids seen so far. -/
def validatePortals (package : SpacePackage) : List String → List Portal → Except String Unit
  | _, [] => .ok ()
  | ids, portal :: portals => do
      bailIf (isEmpty (trim portal.portalId) || ids.contains portal.portalId)
        "portal IDs must be nonempty and unique"
      bailIf (package.place portal.sourcePlaceId).isNone "unknown portal source place"
      bailIf (isEmpty (trim portal.targetSpaceId)) "portal target space is required"
      bailIf (isEmpty (trim portal.targetPlaceId)) "portal target place is required"
      validatePortals package (portal.portalId :: ids) portals

/-- What every map must meet. -/
def validate (crates : SpaceCrates) (package : SpacePackage) : Except String Unit := do
  bailIf (isEmpty (trim package.spaceId)) "space ID is required"
  bailIf (!(0 < package.size.1 && 0 < package.size.2)) "space size is empty"
  bailIf (package.tileSize == 0) "tile size is zero"
  bailIf (!positiveFinite package.walkSpeed) "walk speed must be positive and finite"
  bailIf (!(package.walkableGrid.length == package.size.2 && package.walkableGrid.all fun row =>
        row.length == package.size.1 && row.all fun cell => cell ≤ 1))
    "walkable grid does not match space size or contains invalid cells"
  package.checkPlaces [] package.places
  package.places.forM package.checkParent
  bailIf (package.place package.spaceId).isNone "space world place is missing"
  let _ ← okOr "spawn place is unknown" (package.place package.spawnPlaceId)
  package.serviceBindings.forM package.checkBinding
  package.validatePortals [] package.portals
  bailIf (package.spaceVersion ≠ contentVersion crates package)
    "space version does not match package content"

end SpacePackage

end WattSpace
