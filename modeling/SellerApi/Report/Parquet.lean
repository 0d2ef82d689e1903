import SellerApi.Report.Table

/-! # Parquet files

What a Parquet file of a report says about itself: its columns, and its row groups with their
sizes, compression and dictionaries. A `Writer` takes tables one after another and fills each row
group to the size asked for before it starts the next. That is assumed of it, whatever its
compression: the layout does not depend on how values are compressed. -/

namespace SellerApi.Parquet

open SellerApi.Text

/-- How the values of a column are compressed, at a level where there are some. -/
inductive Compression where
  | snappy
  | uncompressed
  | zstd (level : Nat)
  | gzip (level : Nat)
  | brotli (level : Nat)
  | lz4
  | lz4Raw
  | lzo
  deriving DecidableEq, Repr

/-- The name in a file's description. -/
def Compression.label : Compression → String
  | .snappy => "SNAPPY"
  | .uncompressed => "UNCOMPRESSED"
  | .zstd level => "ZSTD(ZstdLevel(" ++ natText level ++ "))"
  | .gzip level => "GZIP(GzipLevel(" ++ natText level ++ "))"
  | .brotli level => "BROTLI(BrotliLevel(" ++ natText level ++ "))"
  | .lz4 => "LZ4"
  | .lz4Raw => "LZ4_RAW"
  | .lzo => "LZO"

/-- The compression of a name in any case of its letters, at its usual level. -/
def Compression.ofName? (name : String) : Except Failure Compression :=
  let name := Http.lowercase name
  if name = "snappy" then .ok .snappy
  else if name = "zstd" then .ok (.zstd 1)
  else if name = "gzip" then .ok (.gzip 6)
  else if name = "none" ∨ name = "uncompressed" then .ok .uncompressed
  else .error (.settings ("Unknown Parquet compression '" ++ name ++
    "' (expected snappy, zstd, gzip or none)"))

/-- How files are written. A row group holds at least one row. -/
structure Settings where
  compression : Compression := .snappy
  groupSize : Nat := 64 * 1024
  dictionary : Bool := true
  groupSize_pos : 0 < groupSize := by decide

/-- The settings where nothing is asked for. -/
def Settings.usual : Settings := {}

/-- The same settings with another compression. -/
def Settings.withCompression (s : Settings) (c : Compression) : Settings :=
  { s with compression := c }

/-- The same settings with the compression of a name. -/
def Settings.withCompressionName (s : Settings) (name : String) : Except Failure Settings :=
  (Compression.ofName? name).map s.withCompression

/-- The same settings with row groups of another size; zero counts as one. -/
def Settings.withGroupSize (s : Settings) (size : Nat) : Settings :=
  { s with groupSize := max size 1, groupSize_pos := by omega }

/-- The same settings with dictionaries, or without. -/
def Settings.withDictionary (s : Settings) (enabled : Bool) : Settings :=
  { s with dictionary := enabled }

/-- A complete row group. -/
structure Group where
  rows : Nat
  compression : List Compression
  dictionary : List Bool
  deriving DecidableEq, Repr

/-- The name of a column and the kind of its cells. -/
abbrev Schema := List (String × CellKind)

/-- How the cells of a kind are stored. -/
def physicalType : CellKind → String
  | .text => "BYTE_ARRAY"
  | .integer => "INT64"
  | .real => "DOUBLE"

/-- What a file says about itself. -/
structure File where
  schema : Schema
  groups : List Group
  deriving DecidableEq, Repr

def File.rows (f : File) : Nat := f.groups.foldl (fun n g => n + g.rows) 0

/-- A row group being filled: the rows announced, and the rows that each column has received. -/
structure Buffer where
  rows : Nat
  received : List Nat
  deriving DecidableEq, Repr

/-- A file being written. -/
structure Writer where
  settings : Settings
  schema : Schema
  groups : List Group := []
  buffer : Option Buffer := none
  /-- The rows of the tables taken in full. -/
  rowsWritten : Nat := 0

/-- A writer as a diagnostic shows it. -/
def Writer.describe (w : Writer) : String :=
  "ParquetWriter \x7b rows_written: " ++ natText w.rowsWritten ++ ", .. \x7d"

def Writer.start (settings : Settings) (schema : Schema) : Writer := { settings, schema }

/-- The columns in front whose kinds agree. -/
def agreeing : List CellKind → List CellKind → Nat
  | k :: ks, l :: ls => if k = l then agreeing ks ls + 1 else 0
  | _, _ => 0

/-- Two columns of a row group with different numbers of rows. -/
def unequalColumns (expected got : Nat) : Failure :=
  .parquet ("Parquet error: Incorrect number of rows, expected " ++ natText expected ++
    " != " ++ natText got ++ " rows")

/-- The first column whose number of rows differs from that of the first one. -/
def unequal? : List Nat → Option (Nat × Nat)
  | [] => none
  | n :: ns => (ns.find? (· ≠ n)).map fun m => (n, m)

/-- Closes the row group being filled. -/
def Writer.flush (w : Writer) : Except Failure Unit × Writer :=
  match w.buffer with
  | none => (.ok (), w)
  | some b =>
    let w := { w with buffer := none }
    match unequal? b.received with
    | some (expected, got) => (.error (unequalColumns expected got), w)
    | none =>
      let width := w.schema.length
      let rows := b.received.headD b.rows
      (.ok (), { w with groups := w.groups ++ [⟨rows, List.replicate width w.settings.compression,
        List.replicate width w.settings.dictionary⟩] })

/-- The row group being filled, or an empty one. -/
def Writer.filling (w : Writer) : Buffer :=
  w.buffer.getD ⟨0, List.replicate w.schema.length 0⟩

/-- Puts rows into the row group being filled, where they fit. The columns behind the first one of
a wrong kind receive nothing, and the rows stay announced. -/
def Writer.put (w : Writer) (kinds : List CellKind) (rows : Nat) : Except Failure Unit × Writer :=
  let b := w.filling
  let good := agreeing (w.schema.map (·.2)) kinds
  let received := b.received.mapIdx fun i n => if i < good then n + rows else n
  let w := { w with buffer := some ⟨b.rows + rows, received⟩ }
  if good < w.schema.length then
    (.error (.parquet "Parquet error: incompatible column type"), w)
  else if w.settings.groupSize ≤ b.rows + rows then w.flush
  else (.ok (), w)

/-- Puts rows into as many row groups as they need. -/
def Writer.fill (w : Writer) (kinds : List CellKind) (rows : Nat) :
    (fuel : Nat) → Except Failure Unit × Writer
  | 0 => (.ok (), w)
  | fuel + 1 =>
    if rows = 0 then (.ok (), w)
    else
      let room := w.settings.groupSize - w.filling.rows
      if rows ≤ room then w.put kinds rows
      else
        match w.put kinds room with
        | (.ok (), w) => w.fill kinds (rows - room) fuel
        | failed => failed

/-- Takes a table. On failure the count of rows taken stays. -/
def Writer.write (w : Writer) (t : Table) : Except Failure Unit × Writer :=
  match w.fill (t.columns.map (·.cells.kind)) t.rowCount (t.rowCount + 1) with
  | (.ok (), w) => (.ok (), { w with rowsWritten := w.rowsWritten + t.rowCount })
  | failed => failed

/-- Completes the file; the number of rows taken comes with it. -/
def Writer.close (w : Writer) : Except Failure (Nat × File) :=
  match w.flush with
  | (.ok (), done) => .ok (w.rowsWritten, ⟨done.schema, done.groups⟩)
  | (.error e, _) => .error e

/-- The schema of a table. -/
def schemaOf (t : Table) : Schema := t.columns.map fun c => (c.name, c.cells.kind)

end SellerApi.Parquet

namespace SellerApi

/-- The report as a Parquet file, with the number of its rows. -/
def Report.toParquet (r : Report) (settings : Parquet.Settings) :
    Except Failure (Nat × Parquet.File) := do
  let t ← r.typedTable
  match (Parquet.Writer.start settings (Parquet.schemaOf t)).write t with
  | (.ok (), w) => w.close
  | (.error e, _) => .error e

end SellerApi
