/-
The sizes that the channels work with, and the platform that they run on. A size that makes no sense
is refused where it is used.
-/
import ObjectChannel.Platform

namespace ObjectChannel

theorem defaultChunk_pos : 0 < 1024 * 1024 := by decide

structure Limits where
  /-- From this many pending bytes on, a writer sends a part. -/
  minPartSize : Nat := 5 * 1024 * 1024
  /-- The most parts of one upload. -/
  maxParts : Int := 10000
  /-- A mirror larger than this is uploaded in parallel. -/
  parallelThreshold : Int := 16 * 1024 * 1024
  parallelWorkers : Int := 3
  /-- The capacity of one range read when everything is read. -/
  readSize : Int := 1024 * 1024
  /-- How much is copied at a time between a local file and a channel. -/
  copyChunk : Int := 1024 * 1024
  /-- How much of an object is copied into a mirror at a time. -/
  downloadChunk : Nat := 1024 * 1024
  downloadChunk_pos : 0 < downloadChunk := by first | exact defaultChunk_pos | decide
  platform : Platform := {}

instance : Inhabited Limits := ⟨{}⟩

end ObjectChannel
