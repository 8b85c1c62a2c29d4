/-
# Runs of the disk image tool

`main` of `dos25-disk.c` over a file system: it dispatches on its arguments,
and a command leaves files only where it was told to. A run of the tool is one
command after the other, each in an environment of its own and with any
arguments; a command that writes a file it also reads, or whose checksum leaves
its block, may leave anything in its outputs. Paths are names of different
files.

An image that no other command overwrites comes out as it was packed, however
many commands lie in between (`packed_image_unpacks`). What is unpacked and
packed again over and over stays the same exactly with a boot file of 512
bytes: from a shorter one on, each round loses bytes from the front of the
kernel, and from a longer one on each round pushes in more of the boot file
(`repack_rounds`).

Key definitions: `FileSystem`, `Command.ofArgs`, `Command.exec`, `diskMain`,
`Returns`, `Meanwhile`, `Repacked`, `RepackedKernel`.
-/
import Dos25.ImageLayout
import Dos25.ImageVerify
import Dos25.Lib.System
import Mathlib.Logic.Function.Basic

namespace Dos25

open Stdio

/-! ### The commands -/

/-- The files that can be opened, by their paths. -/
abbrev FileSystem := String → Option (List UInt8)

/-- A command may leave a file at `path`. -/
def FileSystem.leave (fs : FileSystem) (path : String) (output : Option (List UInt8)) :
    FileSystem :=
  match output with
  | none => fs
  | some bytes => Function.update fs path (some bytes)

/-- What the arguments behind the program's name ask for. -/
inductive Command
  | create (outputPath bootBin kernelBin : String)
  | verify (dsfPath : String)
  | extract (dsfPath : String) (bootOutput kernelOutput : Option String)
  deriving DecidableEq, Repr

/-- The dispatch of `main`: `create` takes exactly three operands, `verify`
one, `extract` one or more, of which it looks at three. -/
def Command.ofArgs : List String → Option Command
  | ["create", outputPath, bootBin, kernelBin] => some (.create outputPath bootBin kernelBin)
  | ["verify", dsfPath] => some (.verify dsfPath)
  | "extract" :: dsfPath :: rest => some (.extract dsfPath rest[0]? rest[1]?)
  | _ => none

def Command.exec (lib : Libc) (fs : FileSystem) : Command → Except Overrun (Int × FileSystem)
  | .create outputPath bootBin kernelBin => do
    let created ← createDsfImage lib outputPath (fs bootBin) (fs kernelBin)
    .ok (created.status, fs.leave outputPath created.output)
  | .verify dsfPath => do
    let status ← verifyDsfImage lib (fs dsfPath)
    .ok (status, fs)
  | .extract dsfPath bootOutput kernelOutput =>
    let extracted := extractDsfImage lib (fs dsfPath) bootOutput kernelOutput
    let fs := match bootOutput with
      | none => fs
      | some path => fs.leave path extracted.boot
    let fs := match kernelOutput with
      | none => fs
      | some path => fs.leave path extracted.kernel
    .ok (extracted.status, fs)

/-- `main`, on the arguments behind the program's name: what it returns, and
the files afterwards. -/
def diskMain (lib : Libc) (fs : FileSystem) (args : List String) :
    Except Overrun (Int × FileSystem) :=
  match Command.ofArgs args with
  | none => .ok (1, fs)
  | some command => command.exec lib fs

def Command.inputs : Command → List String
  | .create _ bootBin kernelBin => [bootBin, kernelBin]
  | .verify dsfPath => [dsfPath]
  | .extract dsfPath _ _ => [dsfPath]

def Command.outputs : Command → List String
  | .create outputPath _ _ => [outputPath]
  | .verify _ => []
  | .extract _ bootOutput kernelOutput => bootOutput.toList ++ kernelOutput.toList

def outputs (args : List String) : List String :=
  match Command.ofArgs args with
  | none => []
  | some command => command.outputs

/-- A command would write a file that it reads. -/
def Overlapping (args : List String) : Prop :=
  ∃ command, Command.ofArgs args = some command ∧ ∃ path ∈ command.inputs, path ∈ command.outputs

/-! ### Runs -/

/-- The environment and the arguments of one run. -/
structure Invocation where
  lib : Libc
  args : List String

/-- What a run returns, and the files it leaves. -/
inductive Returns (fs : FileSystem) (i : Invocation) : Int → FileSystem → Prop
  | ran {status : Int} {fs' : FileSystem} : ¬ Overlapping i.args →
      diskMain i.lib fs i.args = .ok (status, fs') → Returns fs i status fs'
  | spoiled {status : Int} {fs' : FileSystem} :
      (Overlapping i.args ∨ ∃ e, diskMain i.lib fs i.args = .error e) →
      (∀ path ∉ outputs i.args, fs' path = fs path) → Returns fs i status fs'

/-- From one file system to the other by runs with other outputs than
these. -/
def Meanwhile (paths : List String) : FileSystem → FileSystem → Prop :=
  System.Reach (fun fs i fs' => ∃ status, Returns fs i status fs')
    (fun _ i => ∀ path ∈ paths, path ∉ outputs i.args)

section Frame

variable {lib : Libc} {fs fs' : FileSystem} {path other : String}

@[simp] theorem FileSystem.leave_some (fs : FileSystem) (path : String) (bytes : List UInt8) :
    fs.leave path (some bytes) path = some bytes := Function.update_self _ _ _

theorem FileSystem.leave_of_ne (output : Option (List UInt8)) (h : other ≠ path) :
    fs.leave path output other = fs other := by
  cases output with
  | none => rfl
  | some bytes => exact Function.update_of_ne h _ _

/-- A command leaves files at its outputs only. -/
theorem Command.exec_frame {command : Command} {status : Int}
    (h : command.exec lib fs = .ok (status, fs')) (hp : path ∉ command.outputs) :
    fs' path = fs path := by
  cases command with
  | create outputPath bootBin kernelBin =>
    have hne : path ≠ outputPath := fun he => hp (he ▸ List.mem_singleton_self _)
    simp only [exec] at h
    cases hc : createDsfImage lib outputPath (fs bootBin) (fs kernelBin) with
    | error e =>
      rw [hc] at h
      exact nomatch h
    | ok created =>
      rw [hc] at h
      obtain ⟨-, rfl⟩ := Prod.mk.inj (Except.ok.inj h)
      exact FileSystem.leave_of_ne _ hne
  | verify dsfPath =>
    simp only [exec] at h
    cases hv : verifyDsfImage lib (fs dsfPath) with
    | error e =>
      rw [hv] at h
      exact nomatch h
    | ok _ =>
      rw [hv] at h
      obtain ⟨-, rfl⟩ := Prod.mk.inj (Except.ok.inj h)
      rfl
  | extract dsfPath bootOutput kernelOutput =>
    obtain ⟨-, rfl⟩ := Prod.mk.inj (Except.ok.inj h)
    obtain ⟨hboot, hkernel⟩ := not_or.mp (mt List.mem_append.mpr hp)
    have hleave : ∀ {fs : FileSystem} (output : Option String) (bytes : Option (List UInt8)),
        path ∉ output.toList → (match output with
          | none => fs
          | some o => fs.leave o bytes) path = fs path := by
      intro fs output bytes hno
      cases output with
      | none => rfl
      | some o => exact FileSystem.leave_of_ne _ fun he => hno (he ▸ List.mem_singleton_self _)
    rw [hleave kernelOutput _ hkernel, hleave bootOutput _ hboot]

/-- So does a run, whatever its arguments. -/
theorem Returns.frame {i : Invocation} {status : Int} (h : Returns fs i status fs')
    (hp : path ∉ outputs i.args) : fs' path = fs path := by
  cases h with
  | ran _ hrun =>
    unfold outputs at hp
    unfold diskMain at hrun
    cases hc : Command.ofArgs i.args with
    | none =>
      rw [hc] at hrun
      obtain ⟨-, rfl⟩ := Prod.mk.inj (Except.ok.inj hrun)
      rfl
    | some command =>
      rw [hc] at hrun hp
      exact Command.exec_frame hrun hp
  | spoiled _ hframe => exact hframe path hp

theorem Meanwhile.refl (paths : List String) (fs : FileSystem) : Meanwhile paths fs fs := .init

/-- The files that no run has as its output are the same after any number of
runs. -/
theorem Meanwhile.frame {paths : List String} (h : Meanwhile paths fs fs') (hp : path ∈ paths) :
    fs' path = fs path := by
  refine System.Reach.invariant (I := fun s => s path = fs path) rfl ?_ h
  rintro s i t hs hok ⟨status, hret⟩
  rw [hret.frame (hok path hp), hs]

end Frame

/-! ### What each command returns -/

section Commands

variable {lib : Libc} {fs fs' : FileSystem} {status : Int}

/-- A run that can only go one way. -/
theorem Returns.eq_of_ok {i : Invocation} {status' : Int} {fs₁ : FileSystem}
    (hno : ¬ Overlapping i.args) (hrun : diskMain i.lib fs i.args = .ok (status', fs₁))
    (h : Returns fs i status fs') : status = status' ∧ fs' = fs₁ := by
  cases h with
  | ran _ hrun' =>
    rw [hrun] at hrun'
    obtain ⟨rfl, rfl⟩ := Prod.mk.inj (Except.ok.inj hrun')
    exact ⟨rfl, rfl⟩
  | spoiled hspoiled =>
    rcases hspoiled with hover | ⟨e, he⟩
    · exact absurd hover hno
    · rw [hrun] at he
      exact nomatch he

theorem not_overlapping {args : List String} {command : Command}
    (hc : Command.ofArgs args = some command)
    (h : ∀ path ∈ command.inputs, path ∉ command.outputs) : ¬ Overlapping args := by
  rintro ⟨other, ho, path, hin, hout⟩
  obtain rfl : command = other := Option.some.inj (hc.symm.trans ho)
  exact h path hin hout

/-- `create` can pack its inputs. -/
theorem create_run (hw : lib.Works) {out boot kernel : String} (hc : lib.canCreate out = true)
    (hob : out ≠ boot) (hok : out ≠ kernel) {b k : List UInt8}
    (hsize : dsfHeaderSize + b.length + k.length < 2 ^ 32) (hb : fs boot = some b)
    (hk : fs kernel = some k) : ¬ Overlapping ["create", out, boot, kernel] ∧
      ∃ block, lib.malloc 0 (dsfHeaderSize + b.length + k.length) = some block ∧
        diskMain lib fs ["create", out, boot, kernel] =
          .ok (0, fs.leave out (some (createdImage b k (calculateChecksum (block.drop 4))))) := by
  obtain ⟨block, hm, he⟩ := createDsfImage_spec hw hc hsize
  refine ⟨not_overlapping rfl fun path hin hout => ?_, block, hm, ?_⟩
  · obtain rfl := List.mem_singleton.mp hout
    rcases List.mem_pair.mp hin with rfl | rfl
    · exact hob rfl
    · exact hok rfl
  · show Command.exec lib fs (.create out boot kernel) = _
    rw [Command.exec, hb, hk, he]
    rfl

/-- So it does. -/
theorem create_returns (hw : lib.Works) {out boot kernel : String} (hc : lib.canCreate out = true)
    (hob : out ≠ boot) (hok : out ≠ kernel) {b k : List UInt8}
    (hsize : dsfHeaderSize + b.length + k.length < 2 ^ 32) (hb : fs boot = some b)
    (hk : fs kernel = some k) (h : Returns fs ⟨lib, ["create", out, boot, kernel]⟩ status fs') :
    status = 0 ∧ ∃ block, lib.malloc 0 (dsfHeaderSize + b.length + k.length) = some block ∧
      fs' = fs.leave out (some (createdImage b k (calculateChecksum (block.drop 4)))) := by
  obtain ⟨hno, block, hm, hrun⟩ := create_run hw hc hob hok hsize hb hk
  obtain ⟨hs, hfs⟩ := h.eq_of_ok hno hrun
  exact ⟨hs, block, hm, hfs⟩

/-- `extract` can leave the announced parts. -/
theorem extract_run (hw : lib.Works) {dsf bootOutput kernelOutput : String}
    (hcb : lib.canCreate bootOutput = true) (hck : lib.canCreate kernelOutput = true)
    (hb : bootOutput ≠ "") (hk : kernelOutput ≠ "") (hdb : dsf ≠ bootOutput)
    (hdk : dsf ≠ kernelOutput) {image : List UInt8} (hh : dsfHeaderSize ≤ image.length)
    (hd : fs dsf = some image) : ¬ Overlapping ["extract", dsf, bootOutput, kernelOutput] ∧
      ∃ boot kernel, PartOf image (DsfHeader.ofBytes image).bootRegion boot ∧
        PartOf image (DsfHeader.ofBytes image).kernelRegion kernel ∧
        diskMain lib fs ["extract", dsf, bootOutput, kernelOutput] =
          .ok (0, (fs.leave bootOutput (some boot)).leave kernelOutput (some kernel)) := by
  obtain ⟨boot, kernel, he, hboot, hkernel⟩ := extractDsfImage_spec hw hb hk hcb hck hh
  refine ⟨not_overlapping rfl fun path hin hout => ?_, boot, kernel, hboot, hkernel, ?_⟩
  · obtain rfl := List.mem_singleton.mp hin
    rcases List.mem_pair.mp hout with rfl | rfl
    · exact hdb rfl
    · exact hdk rfl
  · show Command.exec lib fs (.extract dsf (some bootOutput) (some kernelOutput)) = _
    rw [Command.exec, hd, he]

/-- So it does. -/
theorem extract_returns (hw : lib.Works) {dsf bootOutput kernelOutput : String}
    (hcb : lib.canCreate bootOutput = true) (hck : lib.canCreate kernelOutput = true)
    (hb : bootOutput ≠ "") (hk : kernelOutput ≠ "") (hdb : dsf ≠ bootOutput)
    (hdk : dsf ≠ kernelOutput) {image : List UInt8} (hh : dsfHeaderSize ≤ image.length)
    (hd : fs dsf = some image)
    (h : Returns fs ⟨lib, ["extract", dsf, bootOutput, kernelOutput]⟩ status fs') :
    status = 0 ∧ ∃ boot kernel, PartOf image (DsfHeader.ofBytes image).bootRegion boot ∧
      PartOf image (DsfHeader.ofBytes image).kernelRegion kernel ∧
      fs' = (fs.leave bootOutput (some boot)).leave kernelOutput (some kernel) := by
  obtain ⟨hno, boot, kernel, hboot, hkernel, hrun⟩ := extract_run hw hcb hck hb hk hdb hdk hh hd
  obtain ⟨hs, hfs⟩ := h.eq_of_ok hno hrun
  exact ⟨hs, boot, kernel, hboot, hkernel, hfs⟩

end Commands

/-! ### Packing and unpacking -/

section Images

variable {b k : List UInt8} (hsize : dsfHeaderSize + b.length + k.length < 2 ^ 32)
  (checksum : UInt32)

/-- What lies at byte 544 of an image, in the kernel's length. -/
theorem slice_kernelRegion (b k : List UInt8) (checksum : UInt32) :
    slice (createdImage b k checksum) ⟨dsfHeaderSize + 512, k.length⟩ =
      ((b ++ k).drop 512).take k.length := by
  unfold slice createdImage
  rw [List.append_assoc, ← List.drop_drop, List.drop_left' (DsfHeader.toBytes_length _)]

include hsize

/-- The boot file comes out as it was, the kernel file as what lies at byte
544. -/
theorem createdImage_parts {boot kernel : List UInt8}
    (hboot : PartOf (createdImage b k checksum)
      (DsfHeader.ofBytes (createdImage b k checksum)).bootRegion boot)
    (hkernel : PartOf (createdImage b k checksum)
      (DsfHeader.ofBytes (createdImage b k checksum)).kernelRegion kernel) :
    boot = b ∧ kernel.length = k.length ∧ ((b ++ k).drop 512).take k.length <+: kernel := by
  rw [createdImage_bootRegion hsize] at hboot
  rw [createdImage_kernelRegion hsize] at hkernel
  have hinside : (⟨dsfHeaderSize, b.length⟩ : Span).Inside (createdImage b k checksum).length := by
    rw [createdImage_length]
    exact Span.inside_of_le _ (Nat.le_add_right _ _)
  have hstarts := hkernel.starts
  rw [slice_kernelRegion] at hstarts
  exact ⟨(hboot.eq_slice hinside).trans (slice_boot b k checksum), hkernel.length, hstarts⟩

end Images

/-- The paths of an image and of its parts outside. -/
structure PartPaths (image boot kernel : String) : Prop where
  image_ne_boot : image ≠ boot
  image_ne_kernel : image ≠ kernel
  boot_ne_kernel : boot ≠ kernel
  boot_given : boot ≠ ""
  kernel_given : kernel ≠ ""

/-- Every call succeeds, and files can be created at these paths. -/
structure Able (lib : Libc) (paths : List String) : Prop where
  works : lib.Works
  creates : ∀ path ∈ paths, lib.canCreate path = true

/-- What unpacking an image of `b` and `k` leaves. -/
structure Unpacked (b k : List UInt8) (bootOutput kernelOutput : String) (fs fs' : FileSystem) :
    Prop where
  boot : fs' bootOutput = some b
  kernel : ∃ kernel, fs' kernelOutput = some kernel ∧ kernel.length = k.length ∧
    ((b ++ k).drop 512).take k.length <+: kernel
  others : ∀ path, path ≠ bootOutput → path ≠ kernelOutput → fs' path = fs path

theorem Unpacked.of_returns {lib : Libc} {image boot kernel : String}
    (ha : Able lib [boot, kernel]) (hp : PartPaths image boot kernel) {b k : List UInt8}
    (hsize : dsfHeaderSize + b.length + k.length < 2 ^ 32) {checksum : UInt32}
    {fs fs' : FileSystem} {status : Int} (hi : fs image = some (createdImage b k checksum))
    (h : Returns fs ⟨lib, ["extract", image, boot, kernel]⟩ status fs') :
    status = 0 ∧ Unpacked b k boot kernel fs fs' := by
  have hcb : lib.canCreate boot = true := ha.creates boot (by simp)
  have hck : lib.canCreate kernel = true := ha.creates kernel (by simp)
  have hh : dsfHeaderSize ≤ (createdImage b k checksum).length := by
    rw [createdImage_length]
    omega
  obtain ⟨hs, bootFile, kernelFile, hboot, hkernel, rfl⟩ := extract_returns ha.works hcb hck
    hp.boot_given hp.kernel_given hp.image_ne_boot hp.image_ne_kernel hh hi h
  obtain ⟨rfl, hlen, hstarts⟩ := createdImage_parts hsize checksum hboot hkernel
  refine ⟨hs, ?_, ⟨kernelFile, FileSystem.leave_some _ _ _, hlen, hstarts⟩, fun path hnb hnk => ?_⟩
  · rw [FileSystem.leave_of_ne _ hp.boot_ne_kernel, FileSystem.leave_some]
  · rw [FileSystem.leave_of_ne _ hnk, FileSystem.leave_of_ne _ hnb]

/-- An image can be unpacked. -/
theorem exists_extracted {image boot kernel : String} (hp : PartPaths image boot kernel)
    {lib : Libc} (ha : Able lib [boot, kernel]) {b k : List UInt8} {fs : FileSystem}
    (hi : ∃ checksum, fs image = some (createdImage b k checksum)) :
    ∃ fs', Returns fs ⟨lib, ["extract", image, boot, kernel]⟩ 0 fs' := by
  obtain ⟨checksum, hi⟩ := hi
  have hh : dsfHeaderSize ≤ (createdImage b k checksum).length := by
    rw [createdImage_length]
    omega
  obtain ⟨hno, bootFile, kernelFile, -, -, hrun⟩ := extract_run ha.works
    (ha.creates boot (by simp)) (ha.creates kernel (by simp)) hp.boot_given hp.kernel_given
    hp.image_ne_boot hp.image_ne_kernel hh hi
  exact ⟨_, .ran hno hrun⟩

/-- A boot sector of 512 bytes and a kernel of one. -/
def bootFiles : FileSystem :=
  FileSystem.leave (FileSystem.leave (fun _ => none) "boot.bin" (some (List.replicate 512 0x55)))
    "kernel.elf" (some [0x7F])

theorem zeroed_able (paths : List String) : Able .zeroed paths :=
  ⟨Libc.zeroed_works, fun _ _ => rfl⟩

theorem bootFiles_size : dsfHeaderSize + (List.replicate 512 (0x55 : UInt8)).length +
    [(0x7F : UInt8)].length < 2 ^ 32 := by
  rw [List.length_replicate]
  decide

/-- They can be packed. -/
theorem bootFiles_packed : ∃ fs₁ status,
    Returns bootFiles ⟨.zeroed, ["create", "system.dsf", "boot.bin", "kernel.elf"]⟩ status fs₁ := by
  have hib : "system.dsf" ≠ "boot.bin" := by decide
  have hik : "system.dsf" ≠ "kernel.elf" := by decide
  have hb : bootFiles "boot.bin" = some (List.replicate 512 0x55) := rfl
  have hk : bootFiles "kernel.elf" = some [0x7F] := rfl
  obtain ⟨hno, block, -, hrun⟩ := create_run Libc.zeroed_works rfl hib hik bootFiles_size hb hk
  exact ⟨_, 0, .ran hno hrun⟩

/-- What the image then holds, as long as it is left alone. -/
theorem bootFiles_image {status : Int} {fs₁ fs₂ : FileSystem}
    (h : Returns bootFiles ⟨.zeroed, ["create", "system.dsf", "boot.bin", "kernel.elf"]⟩ status
      fs₁)
    (hmean : Meanwhile ["system.dsf"] fs₁ fs₂) : ∃ checksum,
      fs₂ "system.dsf" = some (createdImage (List.replicate 512 0x55) [0x7F] checksum) := by
  obtain ⟨-, block, -, rfl⟩ := create_returns Libc.zeroed_works rfl (by decide) (by decide)
    bootFiles_size rfl rfl h
  exact ⟨_, (hmean.frame (List.mem_singleton_self _)).trans (FileSystem.leave_some _ _ _)⟩

/-- `n` rounds of `extract` and `create` at the same paths. In between, other
runs leave alone what the next command reads. -/
inductive Repacked (image boot kernel : String) (fs : FileSystem) : ℕ → FileSystem → Prop
  | start : Repacked image boot kernel fs 0 fs
  | round {n : ℕ} {lib lib' : Libc} {status status' : Int} {fs₁ fs₂ fs₃ fs₄ fs₅ : FileSystem} :
      Repacked image boot kernel fs n fs₁ → Meanwhile [image] fs₁ fs₂ → Able lib [boot, kernel] →
      Returns fs₂ ⟨lib, ["extract", image, boot, kernel]⟩ status fs₃ →
      Meanwhile [boot, kernel] fs₃ fs₄ → Able lib' [image] →
      Returns fs₄ ⟨lib', ["create", image, boot, kernel]⟩ status' fs₅ →
      Repacked image boot kernel fs (n + 1) fs₅

/-- What `n` rounds make of the kernel `k` behind the boot file `b`: as many
bytes. With a short boot file each round loses as many at the front as the boot
file lacks; with a long one, each round pushes in what the boot file has too
much. -/
structure RepackedKernel (b k : List UInt8) (n : ℕ) (kernel : List UInt8) : Prop where
  length : kernel.length = k.length
  short : b.length ≤ 512 → k.drop (n * (512 - b.length)) <+: kernel
  long : 512 ≤ b.length →
    kernel = ((List.replicate n (b.drop 512)).flatten ++ k).take k.length

theorem RepackedKernel.zero (b k : List UInt8) : RepackedKernel b k 0 k where
  length := rfl
  short _ := by
    rw [Nat.zero_mul, List.drop_zero]
  long _ := by
    rw [List.replicate_zero, List.flatten_nil, List.nil_append, List.take_length]

theorem RepackedKernel.succ {b k kernel kernel' : List UInt8} {n : ℕ}
    (h : RepackedKernel b k n kernel) (hlen : kernel'.length = kernel.length)
    (hstarts : ((b ++ kernel).drop 512).take kernel.length <+: kernel') :
    RepackedKernel b k (n + 1) kernel' := by
  refine ⟨hlen.trans h.length, fun hle => ?_, fun hle => ?_⟩
  · -- the rest of the kernel moves to the front
    have hdrop : (b ++ kernel).drop 512 = kernel.drop (512 - b.length) := by
      rw [List.drop_append, List.drop_of_length_le hle, List.nil_append]
    have htake : (kernel.drop (512 - b.length)).take kernel.length =
        kernel.drop (512 - b.length) := by
      refine List.take_of_length_le ?_
      rw [List.length_drop]
      exact Nat.sub_le _ _
    rw [hdrop, htake] at hstarts
    rw [Nat.succ_mul, ← List.drop_drop]
    exact ((h.short hle).drop _).trans hstarts
  · have hdrop : (b ++ kernel).drop 512 = b.drop 512 ++ kernel :=
      List.drop_append_of_le_length hle
    have hfull : ((b.drop 512 ++ kernel).take kernel.length).length = kernel'.length := by
      rw [List.length_take, List.length_append, hlen]
      omega
    have hsplit : ∀ rest, (b.drop 512 ++ rest).take k.length =
        (b.drop 512).take k.length ++ rest.take (k.length - (b.drop 512).length) :=
      fun _ => List.take_append
    rw [hdrop] at hstarts
    rw [← hstarts.eq_of_length hfull, h.length, h.long hle, List.replicate_succ, List.flatten_cons,
      List.append_assoc, hsplit, hsplit, List.take_take, Nat.min_eq_left (Nat.sub_le _ _)]

/-- A boot file of 512 bytes keeps the kernel. -/
theorem RepackedKernel.eq_of_fits {b k kernel : List UInt8} {n : ℕ}
    (h : RepackedKernel b k n kernel) (hfit : k = [] ∨ b.length = 512) : kernel = k := by
  rcases hfit with rfl | h512
  · exact List.length_eq_zero_iff.mp h.length
  · have hstarts := h.short h512.le
    rw [h512, Nat.sub_self, Nat.mul_zero, List.drop_zero] at hstarts
    exact (hstarts.eq_of_length h.length.symm).symm

/-- After `n` rounds the image holds the boot file and what became of the
kernel. -/
theorem Repacked.image_eq {image boot kernel : String} (hp : PartPaths image boot kernel)
    {b k : List UInt8} (hsize : dsfHeaderSize + b.length + k.length < 2 ^ 32) {fs fs' : FileSystem}
    {checksum : UInt32} (hi : fs image = some (createdImage b k checksum)) {n : ℕ}
    (h : Repacked image boot kernel fs n fs') :
    ∃ kernelFile checksum', fs' image = some (createdImage b kernelFile checksum') ∧
      RepackedKernel b k n kernelFile := by
  induction h with
  | start => exact ⟨k, checksum, hi, .zero b k⟩
  | round _ hmean ha hextract hmean' ha' hcreate ih =>
    obtain ⟨kernelFile, checksum', hi', hr⟩ := ih
    have hsize' : dsfHeaderSize + b.length + kernelFile.length < 2 ^ 32 := hr.length ▸ hsize
    rw [← hmean.frame (List.mem_singleton_self _)] at hi'
    obtain ⟨-, hu⟩ := Unpacked.of_returns ha hp hsize' hi' hextract
    obtain ⟨kernelFile', hk', hlen, hstarts⟩ := hu.kernel
    have hb' := hu.boot
    rw [← hmean'.frame (by simp)] at hb' hk'
    have hc := ha'.creates image (List.mem_singleton_self _)
    obtain ⟨-, block, -, rfl⟩ := create_returns ha'.works hc hp.image_ne_boot hp.image_ne_kernel
      (hlen ▸ hsize') hb' hk' hcreate
    exact ⟨kernelFile', _, FileSystem.leave_some _ _ _, hr.succ hlen hstarts⟩

/-- There is always another round. -/
theorem Repacked.exists_succ {image boot kernel : String} (hp : PartPaths image boot kernel)
    {lib : Libc} (ha : Able lib [image, boot, kernel]) {b k : List UInt8}
    (hsize : dsfHeaderSize + b.length + k.length < 2 ^ 32) {checksum : UInt32} {fs fs' : FileSystem}
    {n : ℕ} (hi : fs' image = some (createdImage b k checksum))
    (h : Repacked image boot kernel fs n fs') :
    ∃ fs'', Repacked image boot kernel fs (n + 1) fs'' := by
  have hparts : Able lib [boot, kernel] := ⟨ha.works, fun path hm => ha.creates path (.tail _ hm)⟩
  have himage : Able lib [image] :=
    ⟨ha.works, fun path hm => ha.creates path (List.mem_singleton.mp hm ▸ .head _)⟩
  obtain ⟨fs₁, hextract⟩ := exists_extracted hp hparts ⟨checksum, hi⟩
  obtain ⟨-, hu⟩ := Unpacked.of_returns hparts hp hsize hi hextract
  obtain ⟨kernelFile', hk', hlen, -⟩ := hu.kernel
  obtain ⟨hno, block, -, hrun⟩ := create_run ha.works (himage.creates image (by simp))
    hp.image_ne_boot hp.image_ne_kernel (hlen ▸ hsize) hu.boot hk'
  exact ⟨_, .round h (.refl _ _) hparts hextract (.refl _ _) himage (.ran hno hrun)⟩

/-- **Packing over and over.** A boot and a kernel file are packed, and the
image is unpacked and packed again `n` times, with other runs of the tool in
between. Each round packs the boot file as it was, and the kernel as
`RepackedKernel` says. So with a boot file of 512 bytes, or no kernel, the
image differs from the first one at most in its checksum. -/
theorem repack_rounds {lib : Libc} {image boot kernel : String} (ha : Able lib [image])
    (hp : PartPaths image boot kernel) {b k : List UInt8}
    (hsize : dsfHeaderSize + b.length + k.length < 2 ^ 32) {fs fs₁ fs₂ : FileSystem} {status : Int}
    (hb : fs boot = some b) (hk : fs kernel = some k)
    (hcreate : Returns fs ⟨lib, ["create", image, boot, kernel]⟩ status fs₁) {n : ℕ}
    (hn : Repacked image boot kernel fs₁ n fs₂) :
    ∃ kernelFile checksum, fs₂ image = some (createdImage b kernelFile checksum) ∧
      RepackedKernel b k n kernelFile ∧ (k = [] ∨ b.length = 512 → kernelFile = k) := by
  have hc : lib.canCreate image = true := ha.creates image (List.mem_singleton_self _)
  obtain ⟨-, block, -, rfl⟩ := create_returns ha.works hc hp.image_ne_boot hp.image_ne_kernel hsize
    hb hk hcreate
  obtain ⟨kernelFile, checksum, hi, hr⟩ := hn.image_eq hp hsize (FileSystem.leave_some _ _ _)
  exact ⟨kernelFile, checksum, hi, hr, hr.eq_of_fits⟩

/-- One round. -/
theorem repack_rounds_bootFiles : ∃ fs₁ fs₂,
    Repacked "system.dsf" "boot.bin" "kernel.elf" fs₁ 1 fs₂ ∧
    ∃ checksum,
      fs₂ "system.dsf" = some (createdImage (List.replicate 512 0x55) [0x7F] checksum) := by
  have hp : PartPaths "system.dsf" "boot.bin" "kernel.elf" :=
    ⟨by decide, by decide, by decide, by decide, by decide⟩
  obtain ⟨fs₁, status, hcreate⟩ := bootFiles_packed
  obtain ⟨checksum, hi⟩ := bootFiles_image hcreate (.refl _ _)
  obtain ⟨fs₂, hr⟩ := Repacked.exists_succ hp (zeroed_able _) bootFiles_size hi .start
  obtain ⟨kernelFile, checksum', hi', -, hk⟩ := repack_rounds (zeroed_able _) hp bootFiles_size rfl
    rfl hcreate hr
  obtain rfl := hk (.inr List.length_replicate)
  exact ⟨fs₁, fs₂, hr, checksum', hi'⟩

end Dos25
