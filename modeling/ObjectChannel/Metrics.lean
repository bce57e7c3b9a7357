/-
Counters of what was transferred: a ledger of the amounts that are handed to each counter. How a counter
shows its sum is its own matter, and one that keeps it as a rounded number is off beyond 2^53.
-/
namespace ObjectChannel

structure Metrics where
  /-- Bytes sent as parts of multipart uploads. -/
  multipartBytes : Nat := 0
  /-- Bytes sent as whole objects. -/
  putBytes : Nat := 0
  /-- Bytes sent by parallel uploads. -/
  parallelBytes : Nat := 0
  partsUploaded : Nat := 0
  /-- Aborts of multipart uploads that were attempted. -/
  aborts : Nat := 0
  /-- Bytes fetched by range reads. -/
  rangeBytes : Nat := 0
  /-- Bytes fetched into mirrors. -/
  mirroredBytes : Nat := 0
  /-- Synchronisations attempted with one request. -/
  putSyncs : Nat := 0
  /-- Synchronisations attempted in parallel. -/
  parallelSyncs : Nat := 0
  deriving DecidableEq, Inhabited

/-- The counters by the names that they are exposed under. -/
def Metrics.samples (m : Metrics) : List (String × Nat) := [
  ("s3channels_bytes_uploaded_total\x7bstrategy=multipart\x7d", m.multipartBytes),
  ("s3channels_bytes_uploaded_total\x7bstrategy=put\x7d", m.putBytes),
  ("s3channels_bytes_uploaded_total\x7bstrategy=parallel\x7d", m.parallelBytes),
  ("s3channels_parts_uploaded_total", m.partsUploaded),
  ("s3channels_multipart_aborts_total", m.aborts),
  ("s3channels_bytes_downloaded_total\x7bchannel=range\x7d", m.rangeBytes),
  ("s3channels_bytes_downloaded_total\x7bchannel=mirrored\x7d", m.mirroredBytes),
  ("s3channels_sync_duration_seconds_count\x7bstrategy=put\x7d", m.putSyncs),
  ("s3channels_sync_duration_seconds_count\x7bstrategy=parallel\x7d", m.parallelSyncs)]

end ObjectChannel
