import JavaNaming.Proofs.Toml.Lasting

/-!
# Documents that start with a table of strings

A document may declare one table whose keys are strings, and go on with any other text. If it ends
there, it is read as that table. If it goes on, then whatever follows, reading either fails or gives a
table that still has the keys that were written first.

* `Document.read_tableDocument`: the document is its table.
* `Document.holds_setting`: a key of the table keeps its string.
* `Document.holds_foreignKey`: a key that follows the known ones is part of the table.
* `Document.has_foreignEntry`, `Document.has_foreignHeader`: a key or header outside of the table is part
  of the document.
-/

namespace JavaNaming.Toml

/-! ## Paths -/

theorem splitLast_first {key : Key} {keys path : List Key} {last : Key}
    (h : splitLast (key :: keys) = some (path, last)) : path.head?.getD last = key := by
  cases keys with
  | nil =>
    cases h
    rfl
  | cons key' keys =>
    rw [splitLast] at h
    · obtain ⟨⟨path', last'⟩, -, h⟩ := Option.map_eq_some_iff.1 h
      cases h
      rfl
    · simp

/-- The first part of a dotted key is the first one that is written. -/
theorem pathOf_first {p : Piece} {more : List Piece} {name : List Char} {path : List Key}
    {last : Key} (hkey : p.key = .ok name) (h : pathOf (p :: more) = .ok (path, last)) :
    (path.head?.getD last).name = String.ofList name := by
  obtain ⟨keys, hkeys, h⟩ := bind_eq_ok h
  obtain ⟨keys', hmap, hkeys⟩ := bind_eq_ok hkeys
  obtain ⟨key, rest, hfirst, -, rfl⟩ := mapM_cons_eq_ok hmap
  rw [hkey] at hfirst
  cases hfirst
  split at hkeys
  · cases hkeys
  · cases hkeys
    split at h
    · next split hsplit =>
      cases h
      rw [splitLast_first hsplit]
    · cases h

theorem pathOf_single {p : Piece} {name : List Char} (hkey : p.key = .ok name) :
    pathOf [p] = .ok ([], ⟨String.ofList name, p.range⟩) := by
  simp only [pathOf, keysOf, List.mapM_cons, List.mapM_nil, hkey]
  rfl

/-! ## Tables of strings -/

/-- An entry of a table that gives a string to a key. -/
def Entries.Gives (setting : String × String) (entry : Key × Text.Range × Value) : Prop :=
  entry.1.name = setting.1 ∧ entry.2.2 = .scalar (.string setting.2.toList)

theorem Entries.set_single (entries : Entries) (key : Key) (range : Text.Range) (value : Value) :
    entries.set .declared [] key range value =
      if (entries.find? key.name).isSome then .error (.on .duplicateKey key.range)
      else .ok (entries.add key range value) := by
  have hkind : ¬ ((Origin.declared = .dotted) = True) := by simp
  simp only [set, descend]
  rw [if_neg hkind]
  cases (entries.find? key.name).isSome <;> rfl

theorem Entries.mem_of_find? {entries : Entries} {name : String} {found : Text.Range × Value}
    (h : entries.find? name = some found) : ∃ key, (key, found) ∈ entries ∧ key.name = name := by
  obtain ⟨e, he, rfl⟩ := Option.map_eq_some_iff.1 h
  exact ⟨e.1, List.mem_of_find?_eq_some he, by simpa using List.find?_some he⟩

theorem Entries.find?_append_of_ne {entry : Key × Text.Range × Value} {name : String}
    (h : entry.1.name ≠ name) (entries : Entries) :
    Entries.find? (entries ++ [entry]) name = entries.find? name := by
  simp [find?, List.find?_append, h]

/-- Setting a key in a table in which it is not implied gives it a value that lasts. -/
theorem Entries.holds_of_set {entries entries' : Entries} {path : List Key} {key : Key}
    {range : Text.Range} {value : Value}
    (hset : entries.set .declared path key range value = .ok entries')
    (hvalue : value.shape ≠ .table .implied)
    (hentries : ∀ e ∈ entries, e.2.2.shape ≠ .table .implied) :
    ∃ shape, shape ≠ .table .implied ∧ Holds shape (path.head?.getD key).name [] entries' := by
  cases path with
  | nil =>
    rw [set_single] at hset
    split at hset
    · cases hset
    · next hnone =>
      cases hset
      rw [Option.not_isSome_iff_eq_none] at hnone
      exact ⟨value.shape, hvalue, range, value, find?_add_self hnone range value, rfl⟩
  | cons first path =>
    obtain ⟨⟨entries'', _⟩, hresult, hset⟩ := bind_eq_ok hset
    cases hset
    cases steps_of_descend hresult with
    | create child hnone =>
      exact ⟨.table .dotted, by simp, _, _, find?_add_self hnone _ _, rfl⟩
    | enter hfind _ =>
      obtain ⟨k, hmem, -⟩ := mem_of_find? hfind
      exact ⟨_, hentries _ hmem, _, _, find?_replace_self hfind _, rfl⟩
    | enterLast items' hfind =>
      exact ⟨.array true, by simp, _, _, find?_replace_self hfind _, rfl⟩

theorem Entries.exists_gives {settings : List (String × String)} {entries : Entries}
    (h : List.Forall₂ Gives settings entries) {entry : Key × Text.Range × Value}
    (hmem : entry ∈ entries) : ∃ setting ∈ settings, Gives setting entry := by
  induction h with
  | nil => cases hmem
  | cons hfirst _ ih =>
    rcases List.mem_cons.1 hmem with rfl | hmem
    · exact ⟨_, List.mem_cons_self, hfirst⟩
    · obtain ⟨setting, hsetting, hgives⟩ := ih hmem
      exact ⟨setting, List.mem_cons_of_mem _ hsetting, hgives⟩

namespace Draft

/-- A line that sets a key to a string adds it, unless the table has the key. -/
theorem read_sets {setting : String × String} {line : Line} (h : line.Sets setting) (d : Draft) :
    ∃ entry, Entries.Gives setting entry ∧
      d.read line =
        if (d.entries.find? setting.1).isSome then .error (.on .duplicateKey entry.1.range)
        else .ok { d with entries := d.entries ++ [entry] } := by
  obtain ⟨p, q, rfl, hkey, hscalar⟩ := h
  refine ⟨(⟨setting.1, p.range⟩, q.range, .scalar (.string setting.2.toList)), ⟨rfl, rfl⟩, ?_⟩
  rw [read, pathOf_single hkey, Written.value, hscalar, String.ofList_toList]
  simp only [bind, Except.bind, pure, Except.pure, Entries.set_single, Entries.add]
  cases (d.entries.find? setting.1).isSome <;> rfl

/-- Lines that set keys to strings add entries that give them, and each key is found with its
string. -/
theorem foldlM_sets {settings : List (String × String)} {lines : List Line}
    (h : List.Forall₂ Line.Sets settings lines) {d d' : Draft}
    (hfold : lines.foldlM read d = .ok d') :
    ∃ new, List.Forall₂ Entries.Gives settings new ∧
      d' = { d with entries := d.entries ++ new } ∧
      ∀ s ∈ settings, Entries.Holds (.scalar (.string s.2.toList)) s.1 [] d'.entries := by
  induction h generalizing d with
  | nil =>
    cases hfold
    exact ⟨[], .nil, by simp, by simp⟩
  | @cons setting line settings lines hline _ ih =>
    obtain ⟨entry, hentry, hread⟩ := read_sets hline d
    rw [List.foldlM_cons, hread] at hfold
    split at hfold
    · cases hfold
    · next hnone =>
      rw [Option.not_isSome_iff_eq_none, ← hentry.1] at hnone
      obtain ⟨new, hnew, rfl, hholds⟩ := ih hfold
      refine ⟨entry :: new, .cons hentry hnew, by simp, List.forall_mem_cons.2 ⟨?_, hholds⟩⟩
      have hfind := Entries.find?_add_self hnone entry.2.1 entry.2.2
      rw [hentry.1] at hfind
      exact ⟨_, _, Entries.find?_append hfind new, by rw [hentry.2]; rfl⟩

/-- Lines that set different keys are all taken. -/
theorem exists_foldlM_sets {settings : List (String × String)} {lines : List Line}
    (h : List.Forall₂ Line.Sets settings lines) {d : Draft}
    (hnew : ∀ s ∈ settings, d.entries.find? s.1 = none)
    (hnodup : (settings.map Prod.fst).Nodup) : ∃ d', lines.foldlM read d = .ok d' := by
  induction h generalizing d with
  | nil => exact ⟨d, rfl⟩
  | @cons setting line settings lines hline _ ih =>
    obtain ⟨entry, hentry, hread⟩ := read_sets hline d
    obtain ⟨hfirst, hrest⟩ := List.forall_mem_cons.1 hnew
    obtain ⟨hnotMem, hnodup⟩ := List.nodup_cons.1 hnodup
    rw [List.foldlM_cons, hread, hfirst]
    refine ih (fun s hs => ?_) hnodup
    have hne : entry.1.name ≠ s.1 := by
      intro heq
      exact hnotMem (hentry.1 ▸ heq ▸ List.mem_map_of_mem hs)
    rw [Entries.find?_append_of_ne hne]
    exact hrest s hs

end Draft

/-! ## Documents -/

/-- A document declares a table with keys that are strings, and goes on with `rest`. -/
inductive TableDocument (table : String) (settings : List (String × String)) (rest : List Char) :
    List Char → Prop
  | intro {indent before key after ending text : List Char} :
      Blanks indent → Blanks before → KeyText table.toList key → Blanks after →
      LineEnd ending text → StringLines settings text rest →
      TableDocument table settings rest
        (indent ++ (opening false ++ (before ++ (key ++ (after ++ ']' :: ending)))))

/-- A document goes on with a key, after any number of blanks. -/
inductive KeyFollows (name : String) : List Char → Prop
  | intro {indent key rest : List Char} : Blanks indent → KeyText name.toList key → EndsKey rest →
      KeyFollows name (indent ++ (key ++ rest))

/-- A document goes on with a header, of a table or of an element of an array of tables. -/
inductive HeaderFollows (name : String) : List Char → Prop
  | intro {indent before key rest : List Char} (ofArray : Bool) : Blanks indent → Blanks before →
      KeyText name.toList key → EndsKey rest →
      HeaderFollows name (indent ++ (opening ofArray ++ (before ++ (key ++ rest))))

theorem exists_tableDocument (table : String) (settings : List (String × String))
    (rest : List Char) : ∃ document, TableDocument table settings rest document := by
  obtain ⟨text, htext⟩ := exists_stringLines settings rest
  obtain ⟨key, hkey⟩ := exists_keyText table.toList
  have hblanks : Blanks [] := by simp [Blanks]
  exact ⟨_, .intro hblanks hblanks hkey hblanks (.lineFeed hblanks) htext⟩

/-- A document without a byte order mark is cut as it stands. -/
theorem standsAt_ofText {document : List Char}
    (h : document.head? ≠ some Token.byteOrderMark) :
    (⟨Token.ofText document, 0⟩ : Rest).StandsAt document := by
  cases document with
  | nil => exact ⟨0, 0, Nat.le_refl _, rfl⟩
  | cons c cs =>
    have hc : c ≠ Token.byteOrderMark := by simpa using h
    refine ⟨(c :: cs).length, 0, Nat.le_refl _, ?_⟩
    simp only [Token.ofText, if_neg hc]

theorem KeyText.head?_append_ne {name key : List Char} (h : KeyText name key) (rest : List Char) :
    (key ++ rest).head? ≠ some Token.byteOrderMark := by
  cases h with
  | bare hne hall =>
    obtain ⟨c, cs, rfl⟩ := List.exists_cons_of_ne_nil hne
    intro hhead
    rw [List.cons_append, List.head?_cons] at hhead
    cases hhead
    exact absurd (hall _ List.mem_cons_self) (by decide)
  | basic _ => simp [Token.byteOrderMark]
  | literal _ => simp [Token.byteOrderMark]

theorem opening_head?_ne (ofArray : Bool) (rest : List Char) :
    (opening ofArray ++ rest).head? ≠ some Token.byteOrderMark := by
  cases ofArray <;> simp [opening, Token.byteOrderMark]

theorem KeyFollows.head?_ne {name : String} {document : List Char}
    (h : KeyFollows name document) : document.head? ≠ some Token.byteOrderMark := by
  obtain ⟨hindent, hkey, -⟩ := h
  exact hindent.head?_append_ne rfl (hkey.head?_append_ne _)

theorem HeaderFollows.head?_ne {name : String} {document : List Char}
    (h : HeaderFollows name document) : document.head? ≠ some Token.byteOrderMark := by
  obtain ⟨ofArray, hindent, -⟩ := h
  exact hindent.head?_append_ne rfl (opening_head?_ne ofArray _)

/-- The lines of a document that starts with a table. -/
theorem ofTokens_tableDocument {table : String} {settings : List (String × String)}
    {rest document : List Char} (h : TableDocument table settings rest document) :
    ∃ range p lines r fuel, p.key = .ok table.toList ∧
      List.Forall₂ Line.Sets settings lines ∧
      r.StandsAt rest ∧ r.tokens.length < fuel ∧
      Line.ofTokens (Token.ofText document) =
        Line.read fuel r (lines.reverse ++ [.table range [p]]) := by
  obtain @⟨indent, before, key, after, ending, text, hindent, hbefore, hkey, hafter, hend,
    hlines⟩ := h
  have hstart := standsAt_ofText (hindent.head?_append_ne rfl (opening_head?_ne false
    (before ++ (key ++ (after ++ ']' :: ending)))))
  obtain ⟨r₁, fuel₁, hr₁, hfuel₁, hread₁⟩ :=
    Line.read_indent hstart hindent (noBlank_cons rfl _) (Nat.lt_succ_self _) []
  obtain ⟨hbracket, -⟩ := hr₁.headerKey hkey hbefore (endsKey_append hafter (by decide) ending)
  obtain ⟨range, p, r₂, hheader, hp, hr₂, hless⟩ :=
    readHeader_table hr₁ hkey hbefore hafter hend
  obtain ⟨fuel₂, rfl⟩ : ∃ n, fuel₁ = n + 1 := ⟨fuel₁ - 1, by omega⟩
  obtain ⟨lines, r, fuel, hsets, hr, hfuel, hread⟩ :=
    Line.read_stringLines hlines hr₂ (by omega : r₂.tokens.length < fuel₂) [.table range [p]]
  refine ⟨range, p, lines, r, fuel, hp, hsets, hr, hfuel, ?_⟩
  rw [Line.ofTokens, hread₁, Line.read_header hbracket, hheader]
  exact hread

theorem Draft.read_firstHeader {p : Piece} {name : List Char} (h : p.key = .ok name)
    (range : Text.Range) :
    Draft.start.read (.table range [p]) =
      .ok ⟨[], some ⟨range, [], ⟨String.ofList name, p.range⟩, false⟩, []⟩ := by
  rw [Draft.read, Draft.declare, pathOf_single h]
  rfl

theorem Draft.mentions_header {d d' : Draft} {ofArray : Bool} {range : Text.Range} {p : Piece}
    {more : List Piece} {name : String} (hp : p.key = .ok name.toList)
    (hread : d.read (.header ofArray range (p :: more)) = .ok d') : d'.Mentions name := by
  have hdeclare : d.declare range (p :: more) ofArray = .ok d' := by
    cases ofArray <;> exact hread
  refine mentions_declare hdeclare (.inr ?_)
  obtain ⟨root, -, hdeclare⟩ := bind_eq_ok hdeclare
  obtain ⟨⟨path, key⟩, hpath, -⟩ := bind_eq_ok hdeclare
  refine ⟨path, key, hpath, ?_⟩
  rw [pathOf_first hp hpath, String.ofList_toList]

namespace Document

theorem read_eq_ok {document : List Char} {root : Entries} (h : read document = .ok root) :
    ∃ lines draft, Line.ofTokens (Token.ofText document) = .ok lines ∧
      lines.foldlM Draft.read Draft.start = .ok draft ∧ draft.finish = .ok root := by
  obtain ⟨lines, hlines, h⟩ := bind_eq_ok h
  obtain ⟨draft, hdraft, h⟩ := bind_eq_ok h
  exact ⟨lines, draft, hlines, hdraft, h⟩

variable {table name : String} {settings : List (String × String)} {rest document : List Char}
  {root : Entries}

/-- **A document with one table of strings is that table.** -/
theorem read_tableDocument (h : TableDocument table settings [] document)
    (hnodup : (settings.map Prod.fst).Nodup) :
    ∃ key range entries, key.name = table ∧ List.Forall₂ Entries.Gives settings entries ∧
      read document = .ok [(key, range, .table .declared entries)] := by
  obtain ⟨range, p, lines, r, fuel, hp, hsets, hr, hfuel, hread⟩ := ofTokens_tableDocument h
  rw [Line.read_eof hr (by omega)] at hread
  obtain ⟨d, hd⟩ := Draft.exists_foldlM_sets hsets
    (d := ⟨[], some ⟨range, [], ⟨table, p.range⟩, false⟩, []⟩) (fun _ _ => rfl) hnodup
  obtain ⟨new, hnew, rfl, -⟩ := Draft.foldlM_sets hsets hd
  refine ⟨⟨table, p.range⟩, range, new, rfl, hnew, ?_⟩
  have hdraft : (lines.reverse ++ [Line.table range [p]]).reverse.foldlM Draft.read Draft.start =
      .ok ⟨[], some ⟨range, [], ⟨table, p.range⟩, false⟩, new⟩ := by
    rw [List.reverse_append, List.reverse_reverse, List.reverse_singleton, List.singleton_append,
      List.foldlM_cons, Draft.read_firstHeader hp, String.ofList_toList]
    exact hd
  rw [read, hread]
  show ((lines.reverse ++ [Line.table range [p]]).reverse.foldlM Draft.read Draft.start >>=
    Draft.finish) = _
  rw [hdraft]
  rfl

/-- What is known once a document that starts with a table was read: the table was read first, and the
text behind it was read as further lines. -/
theorem read_behind (h : TableDocument table settings rest document)
    (hread : read document = .ok root) :
    ∃ range key new r fuel lines more draft, key.name = table ∧
      List.Forall₂ Entries.Gives settings new ∧
      (∀ s ∈ settings, Entries.Holds (.scalar (.string s.2.toList)) s.1 [] new) ∧
      r.StandsAt rest ∧ r.tokens.length < fuel ∧
      Line.read fuel r lines = .ok (lines.reverse ++ more) ∧
      more.foldlM Draft.read ⟨[], some ⟨range, [], key, false⟩, new⟩ = .ok draft ∧
      draft.finish = .ok root := by
  obtain ⟨range, p, lines, r, fuel, hp, hsets, hr, hfuel, htokens⟩ := ofTokens_tableDocument h
  obtain ⟨all, draft, hall, hdraft, hfinish⟩ := read_eq_ok hread
  rw [htokens] at hall
  obtain ⟨more, rfl⟩ := Line.read_extends hall
  rw [List.reverse_append, List.reverse_reverse, List.reverse_singleton, List.singleton_append,
    List.cons_append, List.foldlM_cons, Draft.read_firstHeader hp, String.ofList_toList] at hdraft
  change (lines ++ more).foldlM Draft.read _ = _ at hdraft
  rw [List.foldlM_append] at hdraft
  obtain ⟨d, hd, hmore⟩ := bind_eq_ok hdraft
  obtain ⟨new, hnew, rfl, hholds⟩ := Draft.foldlM_sets hsets hd
  exact ⟨range, ⟨table, p.range⟩, new, r, fuel, _, more, draft, rfl, hnew, hholds, hr, hfuel, hall,
    hmore, hfinish⟩

/-- **A key of the table keeps its string**, whatever follows the table. -/
theorem holds_setting (h : TableDocument table settings rest document)
    (hread : read document = .ok root) {setting : String × String} (hmem : setting ∈ settings) :
    Entries.Holds (.scalar (.string setting.2.toList)) setting.1 [table] root := by
  obtain ⟨range, key, new, r, fuel, lines, more, draft, hkey, -, hholds, -, -, -, hmore, hfinish⟩ :=
    read_behind h hread
  have hstart : Draft.HoldsIn (.scalar (.string setting.2.toList)) setting.1 table
      ⟨[], some ⟨range, [], key, false⟩, new⟩ :=
    .inl ⟨range, key, rfl, rfl, hkey, hholds setting hmem⟩
  have hdraft := foldlM_keeps (fun _ _ _ hd hstep => Draft.HoldsIn.read (by simp) hd hstep)
    hstart hmore
  exact hdraft.finish hfinish

/-- **A key that follows the keys of the table is part of it**, whatever follows that key. -/
theorem holds_foreignKey (h : TableDocument table settings rest document)
    (hrest : KeyFollows name rest) (hread : read document = .ok root) :
    ∃ shape, Entries.Holds shape name [table] root := by
  obtain ⟨range, key, new, r, fuel, lines, more, draft, hkey, hnew, -, hr, hfuel, hall, hmore,
    hfinish⟩ := read_behind h hread
  obtain ⟨hindent, hname, hends⟩ := hrest
  obtain ⟨p, pieces, written, after, hp, heq⟩ :=
    Line.read_foreignEntry hname hindent hends hr hfuel hall
  cases List.append_cancel_left heq
  rw [List.foldlM_cons] at hmore
  obtain ⟨d, hd, hmore⟩ := bind_eq_ok hmore
  obtain ⟨⟨path, last⟩, hpath, hd⟩ := bind_eq_ok hd
  obtain ⟨⟨place, value⟩, hvalue, hd⟩ := bind_eq_ok hd
  obtain ⟨entries, hset, hd⟩ := bind_eq_ok hd
  cases hd
  have hscalar : ∀ e ∈ new, e.2.2.shape ≠ .table .implied := by
    intro e he
    obtain ⟨setting, -, hgives⟩ := Entries.exists_gives hnew he
    rw [hgives.2]
    simp [Value.shape]
  obtain ⟨shape, hshape, hholds⟩ :=
    Entries.holds_of_set hset (Written.shape_ne_implied hvalue) hscalar
  rw [pathOf_first hp hpath, String.ofList_toList] at hholds
  have hstart : Draft.HoldsIn shape name table ⟨[], some ⟨range, [], key, false⟩, entries⟩ :=
    .inl ⟨range, key, rfl, rfl, hkey, hholds⟩
  have hdraft := foldlM_keeps (fun _ _ _ hd hstep => Draft.HoldsIn.read hshape hd hstep)
    hstart hmore
  exact ⟨shape, hdraft.finish hfinish⟩

theorem has_of_mentions {d draft : Draft} {lines : List Line} (h : d.Mentions name)
    (hfold : lines.foldlM Draft.read d = .ok draft) (hfinish : draft.finish = .ok root) :
    root.Has name := by
  have hdraft : draft.Mentions name := foldlM_keeps (fun _ _ _ hd hstep => hd.read hstep) h hfold
  exact hdraft.finish hfinish

/-- **A key at the start of the document is part of it**, whatever follows. -/
theorem has_firstKey (h : KeyFollows name document) (hread : read document = .ok root) :
    root.Has name := by
  obtain ⟨all, draft, hall, hdraft, hfinish⟩ := read_eq_ok hread
  have hr := standsAt_ofText h.head?_ne
  obtain ⟨hindent, hkey, hends⟩ := h
  obtain ⟨p, pieces, written, after, hp, rfl⟩ :=
    Line.read_foreignEntry hkey hindent hends hr (Nat.lt_succ_self _) hall
  rw [List.reverse_nil, List.nil_append, List.foldlM_cons] at hdraft
  obtain ⟨d, hd, hdraft⟩ := bind_eq_ok hdraft
  obtain ⟨⟨path, last⟩, hpath, hd⟩ := bind_eq_ok hd
  obtain ⟨⟨place, value⟩, -, hd⟩ := bind_eq_ok hd
  obtain ⟨entries, hset, hd⟩ := bind_eq_ok hd
  cases hd
  have hfirst := pathOf_first hp hpath
  rw [String.ofList_toList] at hfirst
  exact has_of_mentions (.inl ⟨rfl, Entries.has_set hset (.inr hfirst)⟩) hdraft hfinish

/-- **A header at the start of the document is part of it**, whatever follows. -/
theorem has_firstHeader (h : HeaderFollows name document) (hread : read document = .ok root) :
    root.Has name := by
  obtain ⟨all, draft, hall, hdraft, hfinish⟩ := read_eq_ok hread
  have hr := standsAt_ofText h.head?_ne
  obtain ⟨ofArray, hindent, hbefore, hkey, hends⟩ := h
  obtain ⟨p, pieces, range, after, hp, rfl⟩ :=
    Line.read_foreignHeader hkey hindent hbefore hends hr (Nat.lt_succ_self _) hall
  rw [List.reverse_nil, List.nil_append, List.foldlM_cons] at hdraft
  obtain ⟨d, hd, hdraft⟩ := bind_eq_ok hdraft
  exact has_of_mentions (Draft.mentions_header hp hd) hdraft hfinish

/-- **A header that follows the table is part of the document**, whatever follows. -/
theorem has_nextHeader (h : TableDocument table settings rest document)
    (hrest : HeaderFollows name rest) (hread : read document = .ok root) :
    root.Has name := by
  obtain ⟨range, key, new, r, fuel, lines, more, draft, -, -, -, hr, hfuel, hall, hmore,
    hfinish⟩ := read_behind h hread
  obtain ⟨ofArray, hindent, hbefore, hkey, hends⟩ := hrest
  obtain ⟨p, pieces, range', after, hp, heq⟩ :=
    Line.read_foreignHeader hkey hindent hbefore hends hr hfuel hall
  cases List.append_cancel_left heq
  rw [List.foldlM_cons] at hmore
  obtain ⟨d, hd, hmore⟩ := bind_eq_ok hmore
  exact has_of_mentions (Draft.mentions_header hp hd) hmore hfinish

end Document

end JavaNaming.Toml
