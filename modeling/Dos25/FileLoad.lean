/-
# `file.c`: loading a file

`load_file` opens a volume and a file, allocates a buffer for the file's
information and one for its contents, and releases on each failure what it has
acquired so far. Only the last call, `Read`, shares its cleanup with success:
where it fails, the buffer for the contents stays allocated and no caller
frees it (`load_file_balanced_iff`). The handles are closed on every path
(`loadFile_closes`).

Key definitions: `loadFile`, `fileExists`, `ReachesRead`, `LoadBalanced`.
-/
import Dos25.Boot
import Dos25.Lib.Resource

namespace Dos25

open Resource

/-! ### The code -/

/-- What is acquired from the firmware: open handles and pool buffers. -/
inductive Held
  | handle (protocol : UInt64)
  | pool (address : UInt64)
  deriving DecidableEq, Repr

/-- What `Read` leaves: its status, `*size`, and the bytes it put in the
buffer. -/
structure ReadAnswer where
  status : EfiStatus
  size : UInt64
  bytes : List UInt8

/-- The firmware's answers to the calls of `load_file`: a status, and what the
call's result holds afterwards. -/
structure FileFirmware where
  locateProtocol : EfiStatus
  openVolume : EfiStatus × UInt64
  openFile : EfiStatus × UInt64
  /-- `GetInfo` for a size of zero, and the size it asks for. -/
  probeInfo : EfiStatus × UInt64
  allocateInfo : UInt64 → EfiStatus × UInt64
  /-- `GetInfo`, and `FileSize`. -/
  getInfo : EfiStatus × UInt64
  allocateContent : UInt64 → EfiStatus × UInt64
  read : UInt64 → ReadAnswer

/-- What `load_file` leaves: the results `*buffer` and `*size`, what was
acquired and released, and the bytes read into the buffer. -/
structure Loaded where
  status : EfiStatus
  buffer : UInt64
  size : UInt64
  events : List (Event Held)
  bytes : List UInt8

/-- `buffer` and `size` are what the caller's variables hold before. -/
def loadFile (fw : FileFirmware) (buffer size : UInt64) : Loaded :=
  let status := fw.locateProtocol
  if efiError status then ⟨status, buffer, size, [], []⟩
  else
    let (status, root) := fw.openVolume
    if efiError status then ⟨status, buffer, size, [], []⟩
    else
      let events := [.acquire (.handle root)]
      let (status, file) := fw.openFile
      if efiError status then ⟨status, buffer, size, events ++ [.release (.handle root)], []⟩
      else
        let events := events ++ [.acquire (.handle file)]
        let close := [.release (.handle file), .release (.handle root)]
        let (status, infoSize) := fw.probeInfo
        if status ≠ efiBufferTooSmall then ⟨status, buffer, size, events ++ close, []⟩
        else
          let (status, fileInfo) := fw.allocateInfo infoSize
          if efiError status then ⟨status, buffer, size, events ++ close, []⟩
          else
            let events := events ++ [.acquire (.pool fileInfo)]
            let cleanup := [.release (.pool fileInfo), .release (.handle file), .release (.handle root)]
            let (status, fileSize) := fw.getInfo
            if efiError status then ⟨status, buffer, size, events ++ cleanup, []⟩
            else
              let size := fileSize
              let (status, buffer) := fw.allocateContent size
              if efiError status then ⟨status, buffer, size, events ++ cleanup, []⟩
              else
                let events := events ++ [.acquire (.pool buffer)]
                let answer := fw.read size
                ⟨answer.status, buffer, answer.size, events ++ cleanup, answer.bytes⟩

/-- Whether the file exists, and what was acquired and released. -/
def fileExists (fw : FileFirmware) (buffer size : UInt64) : Bool × List (Event Held) :=
  let loaded := loadFile fw buffer size
  if efiError loaded.status then (false, loaded.events)
  else (true, loaded.events ++ [.release (.pool loaded.buffer)])

/-! ### The balance -/

/-- All calls before `Read` succeed. -/
structure ReachesRead (fw : FileFirmware) : Prop where
  locateProtocol : efiError fw.locateProtocol = false
  openVolume : efiError fw.openVolume.1 = false
  openFile : efiError fw.openFile.1 = false
  probeInfo : fw.probeInfo.1 = efiBufferTooSmall
  allocateInfo : efiError (fw.allocateInfo fw.probeInfo.2).1 = false
  getInfo : efiError fw.getInfo.1 = false
  allocateContent : efiError (fw.allocateContent fw.getInfo.2).1 = false

/-- What UEFI promises of `contents`: the probe does not succeed, and a read
that does delivers the next bytes, as many as it reports. -/
structure FileFirmware.Conforms (fw : FileFirmware) (contents : List UInt8) : Prop where
  probe : efiError fw.probeInfo.1 = true
  read_length : ∀ size, efiError (fw.read size).status = false →
    (fw.read size).bytes.length = (fw.read size).size.toNat
  read_bytes : ∀ size, efiError (fw.read size).status = false → (fw.read size).bytes <+: contents

/-- An error leaves nothing held; otherwise the caller gets the one buffer
held, with `*size` bytes of the file. -/
def LoadBalanced (contents : List UInt8) (loaded : Loaded) : Prop :=
  if efiError loaded.status then heldFrom [] loaded.events = some []
  else heldFrom [] loaded.events = some [.pool loaded.buffer] ∧
    loaded.bytes.length = loaded.size.toNat ∧ loaded.bytes <+: contents

section

variable {fw : FileFirmware} {contents : List UInt8} {buffer size : UInt64}

/-- **An early failure** releases everything. -/
theorem loadFile_early (buffer size : UInt64) (hprobe : efiError fw.probeInfo.1 = true)
    (h : ¬ ReachesRead fw) : efiError (loadFile fw buffer size).status = true ∧
      heldFrom [] (loadFile fw buffer size).events = some [] := by
  unfold loadFile
  by_cases h1 : efiError fw.locateProtocol = true
  · simp [h1]
  by_cases h2 : efiError fw.openVolume.1 = true
  · simp [h1, h2]
  by_cases h3 : efiError fw.openFile.1 = true
  · simp [h1, h2, h3]
  by_cases h4 : fw.probeInfo.1 = efiBufferTooSmall
  swap
  · simp [h1, h2, h3, h4, hprobe]
  by_cases h5 : efiError (fw.allocateInfo fw.probeInfo.2).1 = true
  · simp [h1, h2, h3, h4, h5]
  by_cases h6 : efiError fw.getInfo.1 = true
  · simp [h1, h2, h3, h4, h5, h6]
  by_cases h7 : efiError (fw.allocateContent fw.getInfo.2).1 = true
  · simp [h1, h2, h3, h4, h5, h6, h7]
  · exact absurd ⟨Bool.eq_false_iff.mpr h1, Bool.eq_false_iff.mpr h2, Bool.eq_false_iff.mpr h3, h4,
      Bool.eq_false_iff.mpr h5, Bool.eq_false_iff.mpr h6, Bool.eq_false_iff.mpr h7⟩ h

/-- **The last call.** Whatever it answers, the buffer for the contents is
held. -/
theorem loadFile_late (buffer size : UInt64) (h : ReachesRead fw) :
    (loadFile fw buffer size).status = (fw.read fw.getInfo.2).status ∧
      (loadFile fw buffer size).size = (fw.read fw.getInfo.2).size ∧
      (loadFile fw buffer size).bytes = (fw.read fw.getInfo.2).bytes ∧
      heldFrom [] (loadFile fw buffer size).events = some [.pool (loadFile fw buffer size).buffer] := by
  unfold loadFile
  simp [h.locateProtocol, h.openVolume, h.openFile, h.probeInfo, h.allocateInfo, h.getInfo,
    h.allocateContent]

theorem loadFile_balanced (buffer size : UInt64) (hc : fw.Conforms contents) :
    LoadBalanced contents (loadFile fw buffer size) ↔
      ¬ (ReachesRead fw ∧ efiError (fw.read fw.getInfo.2).status = true) := by
  unfold LoadBalanced
  by_cases hr : ReachesRead fw
  swap
  · obtain ⟨hstatus, hheld⟩ := loadFile_early buffer size hc.probe hr
    rw [if_pos hstatus]
    exact iff_of_true hheld fun h => hr h.1
  obtain ⟨hstatus, hsize, hbytes, hheld⟩ := loadFile_late buffer size hr
  rw [hstatus, hsize, hbytes, hheld]
  by_cases hread : efiError (fw.read fw.getInfo.2).status = true
  · rw [if_pos hread]
    exact iff_of_false (by simp) (not_not.mpr ⟨hr, hread⟩)
  · have hok := Bool.eq_false_iff.mpr hread
    rw [if_neg hread]
    exact iff_of_true ⟨rfl, hc.read_length _ hok, hc.read_bytes _ hok⟩ fun h => hread h.2

theorem fileExists_balanced (buffer size : UInt64) (hprobe : efiError fw.probeInfo.1 = true) :
    heldFrom [] (fileExists fw buffer size).2 = some [] ↔
      ¬ (ReachesRead fw ∧ efiError (fw.read fw.getInfo.2).status = true) := by
  unfold fileExists
  dsimp only
  by_cases hr : ReachesRead fw
  swap
  · obtain ⟨hstatus, hheld⟩ := loadFile_early buffer size hprobe hr
    rw [if_pos hstatus]
    exact iff_of_true hheld fun h => hr h.1
  obtain ⟨hstatus, -, -, hheld⟩ := loadFile_late buffer size hr
  rw [hstatus]
  by_cases hread : efiError (fw.read fw.getInfo.2).status = true
  · rw [if_pos hread, hheld]
    exact iff_of_false (by simp) (not_not.mpr ⟨hr, hread⟩)
  · rw [if_neg hread, heldFrom_append, hheld]
    exact iff_of_true (heldFrom_release_head [] _ []) fun h => hread h.2

/-- **The handles** are closed as often as they are opened, whatever happens. -/
theorem loadFile_closes (buffer size : UInt64) (hprobe : efiError fw.probeInfo.1 = true)
    (handle : UInt64) :
    (loadFile fw buffer size).events.count (.acquire (.handle handle)) =
      (loadFile fw buffer size).events.count (.release (.handle handle)) := by
  by_cases hr : ReachesRead fw
  · have hcount := heldFrom_count (.handle handle) _ _ (loadFile_late buffer size hr).2.2.2
    simpa using hcount
  · have hcount := heldFrom_count (.handle handle) _ _ (loadFile_early buffer size hprobe hr).2
    simpa using hcount

end

/-- **When `load_file` is balanced**, and with it `file_exists`: exactly if
`Read`, where it is called, does not fail. -/
theorem load_file_balanced_iff {fw : FileFirmware} {contents : List UInt8}
    (hc : fw.Conforms contents) (buffer size : UInt64) :
    (LoadBalanced contents (loadFile fw buffer size) ↔
      ¬ (ReachesRead fw ∧ efiError (fw.read fw.getInfo.2).status = true)) ∧
    (heldFrom [] (fileExists fw buffer size).2 = some [] ↔
      ¬ (ReachesRead fw ∧ efiError (fw.read fw.getInfo.2).status = true)) :=
  ⟨loadFile_balanced buffer size hc, fileExists_balanced buffer size hc.probe⟩

/-- Firmware with one file of three bytes. -/
def FileFirmware.threeBytes : FileFirmware where
  locateProtocol := 0
  openVolume := (0, 0x1000)
  openFile := (0, 0x2000)
  probeInfo := (efiBufferTooSmall, 80)
  allocateInfo _ := (0, 0x3000)
  getInfo := (0, 3)
  allocateContent _ := (0, 0x4000)
  read _ := ⟨0, 3, [1, 2, 3]⟩

theorem load_file_balanced_iff_threeBytes :
    LoadBalanced [1, 2, 3] (loadFile .threeBytes 0 0) ∧
      heldFrom [] (fileExists .threeBytes 0 0).2 = some [] := by
  have hc : FileFirmware.threeBytes.Conforms [1, 2, 3] :=
    ⟨rfl, fun _ _ => rfl, fun _ _ => List.prefix_rfl⟩
  have hread : ¬ (ReachesRead .threeBytes ∧
      efiError (FileFirmware.threeBytes.read FileFirmware.threeBytes.getInfo.2).status = true) :=
    fun h => absurd h.2 (by decide)
  exact ⟨(load_file_balanced_iff hc 0 0).1.mpr hread, (load_file_balanced_iff hc 0 0).2.mpr hread⟩

def efiDeviceError : EfiStatus := 0x8000000000000007

/-- The medium of `threeBytes` removed before its contents are read. -/
def FileFirmware.removed : FileFirmware :=
  { FileFirmware.threeBytes with read := fun _ => ⟨efiDeviceError, 3, []⟩ }

theorem failed_read_leaks :
    ¬ ∀ (fw : FileFirmware) (contents : List UInt8) (buffer size : UInt64), fw.Conforms contents →
      LoadBalanced contents (loadFile fw buffer size) := by
  intro h
  have hfails : efiError efiDeviceError ≠ false := by decide
  have hc : FileFirmware.removed.Conforms [1, 2, 3] :=
    ⟨rfl, fun _ hread => absurd hread hfails, fun _ hread => absurd hread hfails⟩
  have hbalanced := h _ _ 0 0 hc
  rw [loadFile_balanced 0 0 hc] at hbalanced
  exact hbalanced ⟨⟨rfl, rfl, rfl, rfl, rfl, rfl, rfl⟩, by decide⟩

end Dos25
