import BayMap.Topology.Config
import BayMap.Topology.Sighting
import BayMap.Topology.Survey

/-!
# Scanning sysfs

The scan goes through the SCSI devices in their order. A disk with a marker goes into the bay that
the marker names. Any other disk waits for the next expander, from which its distance is taken; once
a marker was seen, distances say nothing, and what waits or comes later stays unplaced.
-/

namespace BayMap.Topology

/-- A scan between two devices. -/
structure Scan where
  /-- What is known so far. -/
  survey : Survey
  /-- The devices that wait for an expander. -/
  pending : List Disk

namespace Scan

/-- The slot of a disk at its distance before an expander. -/
def slotAtDistance (layout : Layout) (device expander : String) (index : Nat) :
    Except PlacementError Nat := do
  let deviceAddress ← (Hctl.Address.ofString device).mapError .address
  let expanderAddress ← (Hctl.Address.ofString expander).mapError .address
  slotAt layout index (← slotOffset layout deviceAddress expanderAddress)

/-- Places what waits for an expander, as long as distances count. -/
def drain (s : Scan) (expander : String) (index : Nat) : Scan :=
  match s.survey.topology.family with
  | .byMarker => s
  | .byDistance =>
    ⟨s.pending.foldl
      (fun survey disk =>
        survey.place disk (slotAtDistance survey.topology.layout disk.deviceName expander index))
      s.survey, []⟩

/-- Notes that bays are named by markers. -/
def byMarker (s : Scan) : Scan :=
  { s with survey.topology.family := .byMarker }

/-- Takes the next device. -/
def step (s : Scan) (seen : Sighting) : Scan :=
  match seen.role with
  | .plain => { s with pending := s.pending ++ [seen.disk] }
  | .marked marker =>
    let s := s.byMarker
    { s with survey := s.survey.place seen.disk (markerSlot marker) }
  | .expander (.ok (some wwid)) enclosureId =>
    let s := s.drain seen.name (expanderIndex wwid)
    { s with survey := s.survey.register seen.name wwid enclosureId }
  | .expander (.ok none) _ => { s with survey := s.survey.note [.wwidMissing seen.name] }
  | .expander (.error cause) _ =>
    { s with survey := s.survey.note [.wwidUnreadable seen.name cause] }

/-- The scan of devices in their order. -/
def ofSightings (layout : Layout) (seen : List Sighting) : Scan :=
  seen.foldl step ⟨.start (.empty layout), []⟩

end Scan

theorem expanders_drain (s : Scan) (expander : String) (index : Nat) :
    (s.drain expander index).survey.topology.expanders = s.survey.topology.expanders := by
  unfold Scan.drain
  split
  · rfl
  · show (s.pending.foldl _ s.survey).topology.expanders = _
    generalize s.survey = survey
    induction s.pending generalizing survey with
    | nil => rfl
    | cons disk rest ih => rw [List.foldl_cons, ih, expanders_place]

/-- Scans the SCSI devices of sysfs. -/
def scan (t : Files.Tree) (config : Config) : Survey :=
  let root := config.devicesRoot
  match Sysfs.devices t root with
  | .error cause => (Survey.start (.empty config.layout)).note [.devicesUnlisted root cause]
  | .ok devices => (Scan.ofSightings config.layout (devices.map (.ofEntry t root))).survey

theorem scan_of_devices {t : Files.Tree} {config : Config} {listed : List Files.Entry}
    (h : Sysfs.devices t config.devicesRoot = .ok listed) :
    scan t config =
      (Scan.ofSightings config.layout (listed.map (.ofEntry t config.devicesRoot))).survey := by
  delta scan
  simp only
  rw [h]

theorem scan_of_error {t : Files.Tree} {config : Config} {cause : Files.Error}
    (h : Sysfs.devices t config.devicesRoot = .error cause) :
    scan t config =
      (Survey.start (.empty config.layout)).note [.devicesUnlisted config.devicesRoot cause] := by
  delta scan
  simp only
  rw [h]

end BayMap.Topology
