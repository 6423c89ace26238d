import AcbuBackend.Bulk.BulkCsv

/-! Tables written as CSV and read back.
A line is read back as its fields, whatever they contain. But a file is cut into lines before the
quotes are looked at, so a table is read back where no field has a line feed.
-/

namespace AcbuBackend.Bulk

open AcbuBackend.Runtime

-- Tables

/-- A table with the required columns, whose fields have no white space around them. -/
structure CsvTable where
  headers : List String
  rows : List (List String)
  distinct : headers.Nodup
  required : "to" ∈ headers ∧ "amount_acbu" ∈ headers
  widths : ∀ row ∈ rows, row.length = headers.length
  trimmedHeaders : ∀ header ∈ headers, jsTrim header = header
  trimmedValues : ∀ row ∈ rows, ∀ value ∈ row, jsTrim value = value

-- RFC 4180

/-- A field with a comma, a quote or a line break is quoted. -/
def needsQuotes (cs : List Char) : Bool :=
  cs.any (fun c => c = ',' || c = '"' || c = '\r' || c = '\n')

def doubleQuotes (cs : List Char) : List Char :=
  cs.flatMap (fun c => if c = '"' then ['"', '"'] else [c])

def renderField (field : String) : List Char :=
  if needsQuotes field.toList then '"' :: doubleQuotes field.toList ++ ['"'] else field.toList

def renderLine (fields : List String) : List Char :=
  [','].intercalate (fields.map renderField)

/-- A line for the headers and for each row, all of them ended by a line break. -/
def renderCsv (table : CsvTable) : String :=
  String.ofList ((table.headers :: table.rows).flatMap
    (fun fields => renderLine fields ++ "\r\n".toList))

-- A line

theorem parseCsvChars_char {c : Char} {rest : List Char} {current : String} {inQuotes : Bool}
    (quote : c ≠ '"') (comma : c = ',' → inQuotes = true)
    : parseCsvChars (c :: rest) current inQuotes
      = parseCsvChars rest (current.push c) inQuotes := by
  rw [parseCsvChars]
  · exact quote
  · exact fun _ _ quoted _ => quote quoted
  · intro unquoted separates
    rw [comma separates] at unquoted
    cases unquoted

theorem push_append (current : String) (c : Char) (cs : List Char)
    : current.push c ++ String.ofList cs = current ++ String.ofList (c :: cs) :=
  String.toList_inj.mp (by simp)

theorem parseCsvChars_quote {rest : List Char} {current : String} {inQuotes : Bool}
    (single : inQuotes = true → rest.head? ≠ some '"')
    : parseCsvChars ('"' :: rest) current inQuotes = parseCsvChars rest current (!inQuotes) := by
  rw [parseCsvChars]
  rintro tail rfl rfl
  exact single rfl rfl

theorem parseCsvChars_quoted {cs rest : List Char} {current : String}
    (closed : rest.head? ≠ some '"')
    : parseCsvChars (doubleQuotes cs ++ '"' :: rest) current true
      = parseCsvChars rest (current ++ String.ofList cs) false := by
  induction cs generalizing current with
  | nil =>
      refine (parseCsvChars_quote fun _ => closed).trans ?_
      rw [String.ofList_nil, String.append_empty]
      rfl
  | cons c cs ih =>
      rw [← push_append, ← ih, doubleQuotes, List.flatMap_cons]
      by_cases quote : c = '"'
      · rw [if_pos quote, quote]
        exact parseCsvChars.eq_2 _ _
      · rw [if_neg quote]
        exact parseCsvChars_char quote fun _ => rfl

theorem parseCsvChars_plain {cs rest : List Char} {current : String}
    (plain : needsQuotes cs = false)
    : parseCsvChars (cs ++ rest) current false
      = parseCsvChars rest (current ++ String.ofList cs) false := by
  induction cs generalizing current with
  | nil => rw [List.nil_append, String.ofList_nil, String.append_empty]
  | cons c cs ih =>
      rw [needsQuotes, List.any_cons, Bool.or_eq_false_iff] at plain
      obtain ⟨first, rest_⟩ := plain
      simp only [Bool.or_eq_false_iff, decide_eq_false_iff_not] at first
      rw [← push_append, ← ih rest_]
      exact parseCsvChars_char first.1.1.2 fun comma => absurd comma first.1.1.1

theorem parseCsvChars_renderField {field : String} {rest : List Char}
    (delimited : ∀ c ∈ rest.head?, c = ',')
    : parseCsvChars (renderField field ++ rest) "" false = parseCsvChars rest field false := by
  have closed : rest.head? ≠ some '"' := by
    intro quote
    exact absurd (delimited '"' quote) (by decide)
  unfold renderField
  split
  · rw [List.append_assoc, List.cons_append]
    refine (parseCsvChars_quote fun absurd => by cases absurd).trans ?_
    refine (parseCsvChars_quoted closed).trans ?_
    rw [String.empty_append, String.ofList_toList]
  · rename_i plain
    rw [parseCsvChars_plain (Bool.eq_false_iff.mpr plain), String.empty_append,
      String.ofList_toList]

theorem parseCsvChars_renderLine {fields : List String} (some_ : fields ≠ [])
    : parseCsvChars (renderLine fields) "" false = fields := by
  unfold renderLine
  induction fields with
  | nil => exact absurd rfl some_
  | cons field rest ih =>
      cases rest with
      | nil =>
          have read := @parseCsvChars_renderField field [] (by simp)
          rw [List.append_nil, parseCsvChars] at read
          rw [List.map_singleton, List.intercalate_singleton, read]
      | cons next rest =>
          rw [List.map_cons, List.map_cons, List.intercalate_cons_cons, List.append_assoc]
          refine (parseCsvChars_renderField (by simp)).trans ?_
          have comma : ∀ rest, parseCsvChars (',' :: rest) field false
              = field :: parseCsvChars rest "" false :=
            fun rest => by rw [parseCsvChars]
          exact (comma _).trans (congrArg (field :: ·) (ih (List.cons_ne_nil next rest)))

theorem parseCsvLine_renderLine {fields : List String} (some_ : fields ≠ [])
    : parseCsvLine (String.ofList (renderLine fields)) = fields := by
  rw [parseCsvLine, String.toList_ofList]
  exact parseCsvChars_renderLine some_

-- The ends of a line

theorem length_dropWhile_le {cs : List Char} : (cs.dropWhile isJsSpace).length ≤ cs.length :=
  (List.dropWhile_suffix _).length_le

theorem ends_of_trimmed {field : String} (trimmed : jsTrim field = field)
    : (∀ c ∈ field.toList.head?, isJsSpace c = false)
      ∧ ∀ c ∈ field.toList.getLast?, isJsSpace c = false := by
  have same : trimChars field.toList = field.toList := by
    have := congrArg String.toList trimmed
    rwa [jsTrim, String.toList_ofList] at this
  generalize field.toList = cs at same
  have visible : ∀ {cs : List Char}, cs.dropWhile isJsSpace = cs →
      ∀ c ∈ cs.head?, isJsSpace c = false := by
    intro cs kept c first
    cases cs with
    | nil => cases first
    | cons head tail =>
        obtain rfl := Option.some.inj first
        by_contra space
        rw [List.dropWhile_cons_of_pos (Bool.not_eq_false _ ▸ space)] at kept
        have shorter := @length_dropWhile_le tail
        rw [kept, List.length_cons] at shorter
        omega
  have length := congrArg List.length same
  unfold trimChars at same length
  rw [List.length_reverse] at length
  have inner := @length_dropWhile_le (cs.dropWhile isJsSpace).reverse
  rw [List.length_reverse] at inner
  have start : cs.dropWhile isJsSpace = cs :=
    (List.dropWhile_suffix _).eq_of_length_le (length ▸ inner)
  rw [start] at same
  refine ⟨visible start, ?_⟩
  rw [← List.head?_reverse]
  exact visible (List.reverse_eq_iff.mp same)

/-- A text that is no space at its end. -/
def EndsVisibly (cs : List Char) : Prop :=
  ∀ c ∈ cs.getLast?, isJsSpace c = false

theorem endsVisibly_append_cons {cs ds : List Char} {c : Char} (visible : isJsSpace c = false)
    (rest : EndsVisibly ds)
    : EndsVisibly (cs ++ c :: ds) := by
  intro last member
  rw [List.getLast?_append, List.getLast?_cons] at member
  cases ends : ds.getLast? with
  | none =>
      rw [ends] at member
      obtain rfl := Option.some.inj member
      exact visible
  | some final =>
      rw [ends] at member
      obtain rfl := Option.some.inj member
      exact rest final ends

theorem endsVisibly_renderField {field : String} (trimmed : jsTrim field = field)
    : EndsVisibly (renderField field) := by
  unfold renderField
  split
  · exact endsVisibly_append_cons (by decide) fun c absurd => by cases absurd
  · exact (ends_of_trimmed trimmed).2

theorem endsVisibly_renderLine {fields : List String}
    (trimmed : ∀ field ∈ fields, jsTrim field = field)
    : EndsVisibly (renderLine fields) := by
  unfold renderLine
  induction fields with
  | nil => exact fun c absurd => by cases absurd
  | cons field rest ih =>
      obtain ⟨first, others⟩ := List.forall_mem_cons.mp trimmed
      cases rest with
      | nil =>
          rw [List.map_singleton, List.intercalate_singleton]
          exact endsVisibly_renderField first
      | cons next rest =>
          rw [List.map_cons, List.map_cons, List.intercalate_cons_cons, List.append_assoc]
          exact endsVisibly_append_cons (by decide) (ih others)

theorem jsTrimEnd_line {cs : List Char} (visible : EndsVisibly cs)
    : jsTrimEnd (String.ofList (cs ++ ['\r'])) = String.ofList cs := by
  unfold jsTrimEnd
  rw [String.toList_ofList, List.reverse_append]
  have kept : cs.reverse.dropWhile isJsSpace = cs.reverse := by
    cases reversed : cs.reverse with
    | nil => rfl
    | cons last rest =>
        have ends : last ∈ cs.getLast? := by rw [← List.head?_reverse, reversed]; rfl
        rw [List.dropWhile_cons_of_neg (by simp [visible last ends])]
  have space : isJsSpace '\r' = true := by decide
  rw [List.reverse_singleton, List.singleton_append, List.dropWhile_cons_of_pos space, kept,
    List.reverse_reverse]

-- A file

theorem mem_renderLine {fields : List String} {c : Char} (member : c ∈ renderLine fields)
    : c = ',' ∨ c = '"' ∨ ∃ field ∈ fields, c ∈ field.toList := by
  have inField : ∀ {field : String}, c ∈ renderField field → c = '"' ∨ c ∈ field.toList := by
    intro field member
    unfold renderField doubleQuotes at member
    split at member
    · rcases List.mem_append.mp member with member | member
      · rcases List.mem_cons.mp member with quote | member
        · exact .inl quote
        · obtain ⟨d, there, same⟩ := List.mem_flatMap.mp member
          split at same
          · exact .inl (by simpa using same)
          · rw [List.mem_singleton.mp same]
            exact .inr there
      · exact .inl (List.mem_singleton.mp member)
    · exact .inr member
  unfold renderLine at member
  induction fields with
  | nil => cases member
  | cons field rest ih =>
      cases rest with
      | nil =>
          rw [List.map_singleton, List.intercalate_singleton] at member
          exact (inField member).elim (fun quote => .inr (.inl quote))
            fun there => .inr (.inr ⟨field, List.mem_cons_self, there⟩)
      | cons next rest =>
          rw [List.map_cons, List.map_cons, List.intercalate_cons_cons] at member
          rcases List.mem_append.mp member with member | member
          · rcases List.mem_append.mp member with member | member
            · exact (inField member).elim (fun quote => .inr (.inl quote))
                fun there => .inr (.inr ⟨field, List.mem_cons_self, there⟩)
            · exact .inl (List.mem_singleton.mp member)
          · rcases ih member with comma | quote | ⟨other, there, inside⟩
            · exact .inl comma
            · exact .inr (.inl quote)
            · exact .inr (.inr ⟨other, List.mem_cons_of_mem _ there, inside⟩)

/-- A field without a line feed. -/
def OneLine (field : String) : Prop :=
  '\n' ∉ field.toList

theorem renderLine_oneLine {fields : List String} (lines : ∀ field ∈ fields, OneLine field)
    : '\n' ∉ renderLine fields := by
  intro member
  rcases mem_renderLine member with absurd | absurd | ⟨field, there, inside⟩
  · cases absurd
  · cases absurd
  · exact lines field there inside

theorem splitOn_lines {lines : List (List Char)} (oneLine : ∀ line ∈ lines, '\n' ∉ line)
    : (lines.flatMap (fun line => line ++ "\r\n".toList)).splitOn '\n'
      = lines.map (· ++ ['\r']) ++ [[]] := by
  induction lines with
  | nil => rfl
  | cons line rest ih =>
      obtain ⟨first, others⟩ := List.forall_mem_cons.mp oneLine
      have noFeed : '\n' ∉ line ++ ['\r'] := by
        rw [List.mem_append, not_or]
        exact ⟨first, by decide⟩
      have shape : line ++ "\r\n".toList = (line ++ ['\r']) ++ ['\n'] := by simp
      rw [List.flatMap_cons, shape, List.append_assoc, List.singleton_append,
        List.splitOn_append_cons_self_of_not_mem noFeed, ih others]
      rfl

theorem stripByteOrderMark_line {fields : List String} {rest : List Char}
    (trimmed : ∀ field ∈ fields, jsTrim field = field)
    : stripByteOrderMark (String.ofList (renderLine fields ++ '\r' :: rest))
      = String.ofList (renderLine fields ++ '\r' :: rest) := by
  have visible : ∀ {c : Char}, c.toNat = 65279 → isJsSpace c = false → False := by
    intro c mark visible
    rw [isJsSpace, mark] at visible
    revert visible
    decide
  have first : ∀ c tail, renderLine fields ++ '\r' :: rest = c :: tail → c.toNat ≠ 65279 := by
    intro c tail shape mark
    cases fields with
    | nil =>
        obtain ⟨rfl, -⟩ := List.cons.inj shape
        exact absurd mark (by decide)
    | cons field others =>
        have start : ∃ more, renderLine (field :: others) ++ '\r' :: rest
            = renderField field ++ more ∧ ∀ c ∈ more.head?, c = ',' ∨ c = '\r' := by
          unfold renderLine
          cases others with
          | nil => exact ⟨'\r' :: rest, by simp, by simp⟩
          | cons next others =>
              refine ⟨',' :: ([','].intercalate ((next :: others).map renderField)
                ++ '\r' :: rest), ?_, by simp⟩
              rw [List.map_cons, List.map_cons, List.intercalate_cons_cons]
              simp
        obtain ⟨more, whole, next⟩ := start
        rw [whole] at shape
        cases written : renderField field with
        | nil =>
            rw [written, List.nil_append] at shape
            rcases next c (by rw [shape]; rfl) with rfl | rfl <;> exact absurd mark (by decide)
        | cons head tail' =>
            rw [written] at shape
            obtain ⟨rfl, -⟩ := List.cons.inj shape
            unfold renderField at written
            split at written
            · obtain ⟨rfl, -⟩ := List.cons.inj written
              exact absurd mark (by decide)
            · exact visible mark ((ends_of_trimmed (trimmed field List.mem_cons_self)).1 head
                (by rw [written]; rfl))
  unfold stripByteOrderMark
  rw [String.toList_ofList]
  cases shape : renderLine fields ++ '\r' :: rest with
  | nil => rfl
  | cons c tail => exact if_neg (first c tail shape)

variable {table : CsvTable}

theorem CsvTable.trimmed (table : CsvTable)
    : ∀ fields ∈ table.headers :: table.rows, ∀ field ∈ fields, jsTrim field = field :=
  List.forall_mem_cons.mpr ⟨table.trimmedHeaders, table.trimmedValues⟩

theorem CsvTable.wide (table : CsvTable)
    : ∀ fields ∈ table.headers :: table.rows, 2 ≤ fields.length := by
  have columns : 2 ≤ table.headers.length := by
    have both : ["to", "amount_acbu"] ⊆ table.headers :=
      List.cons_subset.mpr ⟨table.required.1, List.cons_subset.mpr
        ⟨table.required.2, List.nil_subset _⟩⟩
    exact (List.subperm_of_subset (by decide) both).length_le
  refine List.forall_mem_cons.mpr ⟨columns, fun row member => ?_⟩
  rw [table.widths row member]
  exact columns

theorem renderLine_ne_nil {fields : List String} (wide : 2 ≤ fields.length)
    : renderLine fields ≠ [] := by
  unfold renderLine
  rcases fields with _ | ⟨field, _ | ⟨next, rest⟩⟩
  · cases wide
  · simp at wide
  · rw [List.map_cons, List.map_cons, List.intercalate_cons_cons]
    simp

/-- No header and no value has a line feed. -/
def CsvTable.OneLined (table : CsvTable) : Prop :=
  ∀ fields ∈ table.headers :: table.rows, ∀ field ∈ fields, OneLine field

theorem csvLines_renderCsv (lines : table.OneLined)
    : csvLines (renderCsv table)
      = (table.headers :: table.rows).map (fun fields => String.ofList (renderLine fields)) := by
  have whole : (table.headers :: table.rows).flatMap (fun fields => renderLine fields
      ++ "\r\n".toList)
      = ((table.headers :: table.rows).map renderLine).flatMap (fun line => line
        ++ "\r\n".toList) := by
    rw [List.flatMap_map]
  have marked : stripByteOrderMark (renderCsv table) = renderCsv table := by
    unfold renderCsv
    rw [List.flatMap_cons, List.append_assoc]
    exact stripByteOrderMark_line table.trimmedHeaders
  have oneLine : ∀ line ∈ (table.headers :: table.rows).map renderLine, '\n' ∉ line := by
    intro line member
    obtain ⟨fields, there, rfl⟩ := List.mem_map.mp member
    exact renderLine_oneLine (lines fields there)
  have trimmed : ∀ fields ∈ table.headers :: table.rows,
      jsTrimEnd (String.ofList (renderLine fields ++ ['\r'])) = String.ofList (renderLine fields) :=
    fun fields there => jsTrimEnd_line (endsVisibly_renderLine (table.trimmed fields there))
  have ends : (((table.headers :: table.rows).map renderLine).map (· ++ ['\r'])).map
      (fun line => jsTrimEnd (String.ofList line))
      = (table.headers :: table.rows).map (fun fields => String.ofList (renderLine fields)) := by
    rw [List.map_map, List.map_map]
    exact List.map_congr_left trimmed
  have last : jsTrimEnd (String.ofList []) = "" := by decide
  unfold csvLines
  dsimp only
  rw [marked, renderCsv, String.toList_ofList, whole, splitOn_lines oneLine, List.map_append, ends,
    List.filter_append]
  have blank : ([[]].map fun line : List Char => jsTrimEnd (String.ofList line)).filter
      (fun line => line ≠ "") = [] := by
    rw [List.map_singleton, last]
    decide
  rw [blank, List.append_nil, List.filter_eq_self]
  intro line member
  obtain ⟨fields, there, rfl⟩ := List.mem_map.mp member
  refine decide_eq_true fun empty => renderLine_ne_nil (table.wide fields there) ?_
  have := congrArg String.toList empty
  rwa [String.toList_ofList] at this

theorem csvRow_renderLine {headers row : List String} (width : row.length = headers.length)
    (some_ : row ≠ []) (trimmed : ∀ value ∈ row, jsTrim value = value)
    : csvRow headers (String.ofList (renderLine row)) = headers.zip row := by
  unfold csvRow
  dsimp only
  rw [parseCsvLine_renderLine some_]
  refine List.ext_getElem (by simp [width]) fun n left right => ?_
  have inside : n < row.length := by
    rw [List.length_zip] at right
    omega
  rw [List.getElem_map, List.getElem_zipIdx, List.getElem_zip]
  dsimp only
  rw [Nat.zero_add, List.getElem?_eq_getElem inside, Option.getD_some,
    trimmed _ (List.getElem_mem inside)]

/-- What reading a rendered table should give. -/
def CsvTable.parsed (table : CsvTable) : List String × List CsvRow :=
  (table.headers, table.rows.map (table.headers.zip ·))

theorem parseCsvTable_of_oneLined (lines : table.OneLined)
    : parseCsvTable (renderCsv table) = .ok table.parsed := by
  have nonempty : ∀ fields ∈ table.headers :: table.rows, fields ≠ [] := by
    rintro _ there rfl
    exact absurd (table.wide [] there) (by decide)
  unfold parseCsvTable
  rw [csvLines_renderCsv lines, List.map_cons]
  dsimp only
  have headers : (parseCsvLine (String.ofList (renderLine table.headers))).map jsTrim
      = table.headers := by
    rw [parseCsvLine_renderLine (nonempty _ List.mem_cons_self),
      List.map_congr_left table.trimmedHeaders, List.map_id']
  have found : ["to", "amount_acbu"].filter (fun header => !table.headers.contains header)
      = [] := by
    simp [table.required.1, table.required.2]
  have rows : (table.rows.map fun fields => String.ofList (renderLine fields)).map
      (csvRow table.headers) = table.rows.map (table.headers.zip ·) := by
    rw [List.map_map]
    exact List.map_congr_left fun row member => csvRow_renderLine (table.widths row member)
      (nonempty row (List.mem_cons_of_mem _ member)) (table.trimmedValues row member)
  rw [headers, if_pos found, rows]
  rfl

-- What is read of any file

theorem notMem_of_mem_splitOn {separator : Char} {cs piece : List Char}
    (member : piece ∈ cs.splitOn separator)
    : separator ∉ piece := by
  induction cs generalizing piece with
  | nil =>
      rw [List.splitOn_nil, List.mem_singleton] at member
      rw [member]
      exact List.not_mem_nil
  | cons c cs ih =>
      rw [List.splitOn_cons_eq_if_modifyHead] at member
      split at member
      · rcases List.mem_cons.mp member with rfl | member
        · exact List.not_mem_nil
        · exact ih member
      · rename_i other
        obtain ⟨head, tail, pieces⟩ := List.exists_cons_of_ne_nil (List.splitOn_ne_nil separator cs)
        rw [pieces, List.modifyHead_cons] at member
        rcases List.mem_cons.mp member with rfl | member
        · rw [List.mem_cons, not_or]
          exact ⟨fun same => other (by simp [same]), ih (pieces ▸ List.mem_cons_self)⟩
        · exact ih (pieces ▸ List.mem_cons_of_mem _ member)

theorem mem_parseCsvChars {cs : List Char} {current field : String} {inQuotes : Bool} {c : Char}
    (member : field ∈ parseCsvChars cs current inQuotes) (inside : c ∈ field.toList)
    : c ∈ current.toList ∨ c ∈ cs := by
  fun_induction parseCsvChars cs current inQuotes with
  | case1 current inQuotes =>
      rw [List.mem_singleton.mp member] at inside
      exact .inl inside
  | case2 current rest ih =>
      rcases ih member with before | after
      · rw [String.toList_push, List.mem_append] at before
        rcases before with before | quote
        · exact .inl before
        · rw [List.mem_singleton.mp quote]
          exact .inr List.mem_cons_self
      · exact .inr (List.mem_cons_of_mem _ (List.mem_cons_of_mem _ after))
  | case3 current inQuotes rest _ ih =>
      exact (ih member).imp_right (List.mem_cons_of_mem _)
  | case4 current rest ih =>
      rcases List.mem_cons.mp member with rfl | member
      · exact .inl inside
      · rcases ih member with before | after
        · cases before
        · exact .inr (List.mem_cons_of_mem _ after)
  | case5 current inQuotes char rest _ _ _ ih =>
      rcases ih member with before | after
      · rw [String.toList_push, List.mem_append] at before
        rcases before with before | same
        · exact .inl before
        · rw [List.mem_singleton.mp same]
          exact .inr List.mem_cons_self
      · exact .inr (List.mem_cons_of_mem _ after)

theorem mem_of_mem_jsTrim {field : String} {c : Char} (member : c ∈ (jsTrim field).toList)
    : c ∈ field.toList := by
  rw [jsTrim, String.toList_ofList, trimChars, List.mem_reverse] at member
  have inner := List.mem_reverse.mp ((List.dropWhile_suffix _).mem member)
  exact (List.dropWhile_suffix _).mem inner

theorem csvLines_oneLine {text line : String} (member : line ∈ csvLines text) : OneLine line := by
  obtain ⟨piece, there, rfl⟩ := List.mem_map.mp (List.mem_of_mem_filter member)
  intro feed
  rw [jsTrimEnd, String.toList_ofList, String.toList_ofList, List.mem_reverse] at feed
  exact notMem_of_mem_splitOn there
    (List.mem_reverse.mp ((List.dropWhile_suffix _).mem feed))

theorem jsTrim_parseCsvLine_oneLine {line field : String} (oneLine : OneLine line)
    (member : field ∈ parseCsvLine line)
    : OneLine (jsTrim field) := by
  intro feed
  rcases mem_parseCsvChars member (mem_of_mem_jsTrim feed) with absurd | inside
  · cases absurd
  · exact oneLine inside

theorem parseCsvTable_oneLine {text : String} {headers : List String} {rows : List CsvRow}
    (read : parseCsvTable text = .ok (headers, rows))
    : (∀ header ∈ headers, OneLine header) ∧ ∀ row ∈ rows, ∀ entry ∈ row, OneLine entry.2 := by
  unfold parseCsvTable at read
  cases lines : csvLines text with
  | nil =>
      rw [lines] at read
      cases read
  | cons first rest =>
      have oneLine := fun line member => @csvLines_oneLine text line member
      rw [lines] at read oneLine
      dsimp only at read
      split at read
      · obtain ⟨rfl, rfl⟩ := Prod.mk.inj (Except.ok.inj read)
        refine ⟨fun header member => ?_, fun row member entry there => ?_⟩
        · obtain ⟨field, inside, rfl⟩ := List.mem_map.mp member
          exact jsTrim_parseCsvLine_oneLine (oneLine first List.mem_cons_self) inside
        · obtain ⟨line, inside, rfl⟩ := List.mem_map.mp member
          obtain ⟨⟨header, index⟩, -, rfl⟩ := List.mem_map.mp there
          dsimp only
          cases value : (parseCsvLine line)[index]? with
          | none =>
              intro feed
              cases mem_of_mem_jsTrim feed
          | some value' =>
              exact jsTrim_parseCsvLine_oneLine (oneLine line (List.mem_cons_of_mem _ inside))
                (List.mem_of_getElem? value)
      · cases read

/-- A table is read back as it is exactly when no header and no value has a line feed; the lines of
its fields are read back whatever they contain.
-/
theorem table_read_back_iff (table : CsvTable)
    : (parseCsvTable (renderCsv table) = .ok table.parsed ↔ table.OneLined)
      ∧ ∀ fields : List String, fields ≠ [] →
        parseCsvLine (String.ofList (renderLine fields)) = fields := by
  refine ⟨⟨fun read => ?_, parseCsvTable_of_oneLined⟩, fun fields => parseCsvLine_renderLine⟩
  obtain ⟨headers, rows⟩ := parseCsvTable_oneLine read
  refine List.forall_mem_cons.mpr ⟨headers, fun row member value there => ?_⟩
  obtain ⟨index, bound, rfl⟩ := List.getElem_of_mem there
  have bound' : index < table.headers.length := table.widths row member ▸ bound
  have entry : (table.headers[index], row[index]) ∈ table.headers.zip row :=
    List.mem_iff_getElem.mpr ⟨index, by rw [List.length_zip]; omega, List.getElem_zip⟩
  exact rows _ (List.mem_map_of_mem member) _ entry

instance : DecidablePred OneLine :=
  fun _ => inferInstanceAs (Decidable (_ ∉ _))

def paymentTable (reference : String) (trimmed : jsTrim reference = reference) : CsvTable where
  headers := ["to", "amount_acbu", "reference"]
  rows := [["GALICE", "10", reference]]
  distinct := by decide
  required := by decide
  widths := List.forall_mem_singleton.mpr rfl
  trimmedHeaders := by decide +kernel
  trimmedValues := by
    simp only [List.forall_mem_cons, List.not_mem_nil, false_imp_iff, implies_true, and_true]
    exact ⟨by decide +kernel, by decide +kernel, trimmed⟩

/-- A reference with a comma and quotes is read back. -/
theorem quoted_table_read_back
    : parseCsvTable (renderCsv (paymentTable "rent, \"May\"" (by decide +kernel)))
      = .ok (paymentTable "rent, \"May\"" (by decide +kernel)).parsed :=
  (table_read_back_iff _).1.mpr (by
    simp only [CsvTable.OneLined, paymentTable]
    decide +kernel)

/-- A reference with a line feed is cut in two, and its second part is read as another payment. -/
theorem broken_table_read_back
    : parseCsvTable (renderCsv (paymentTable "rent\nMay" (by decide +kernel)))
        = .ok (["to", "amount_acbu", "reference"],
          [[("to", "GALICE"), ("amount_acbu", "10"), ("reference", "rent")],
            [("to", "May"), ("amount_acbu", ""), ("reference", "")]])
      ∧ parseCsvTable (renderCsv (paymentTable "rent\nMay" (by decide +kernel)))
        ≠ .ok (paymentTable "rent\nMay" (by decide +kernel)).parsed := by
  decide +kernel

end AcbuBackend.Bulk
