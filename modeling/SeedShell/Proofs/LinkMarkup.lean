import SeedShell.Links
import SeedShell.Proofs.Texts

/-!
# Lines with their addresses as links

A line is divided in one way into the web addresses that it holds and the text between them: each
address goes on to the next blank, and none starts within the text. The markup of a line is this
division with an anchor for each address. In it an anchor stands where one was put in and nowhere
else, so the line can be read back.
-/

namespace SeedShell.Proofs

open Links

/-! ### Addresses -/

/-- A web address starts here: a scheme and at least one character that is no blank. -/
def BeginsAddress (cs : List Char) : Prop :=
  ∃ scheme ∈ ["http://".toList, "https://".toList], ∃ c rest, cs = scheme ++ c :: rest ∧
    Text.isBlank c = false

/-- The whole text is one web address. -/
structure IsAddress (url : List Char) : Prop where
  begins : BeginsAddress url
  not_blank : ∀ c ∈ url, Text.isBlank c = false

/-- No address starts at a character of the text, where `after` follows it. -/
def NoneBegins (text after : List Char) : Prop :=
  ∀ back, back ≠ [] → back <:+ text → ¬BeginsAddress (back ++ after)

section Addresses

variable {c : Char} {cs rest text after url : List Char}

lemma BeginsAddress.append (h : BeginsAddress cs) (more : List Char) :
    BeginsAddress (cs ++ more) := by
  obtain ⟨scheme, hscheme, c, rest, rfl, hc⟩ := h
  exact ⟨scheme, hscheme, c, rest ++ more, by simp, hc⟩

lemma startsAddress_iff : startsAddress cs = true ↔ BeginsAddress cs := by
  constructor
  · intro h
    unfold startsAddress at h
    split at h
    · next scheme c rest hscheme =>
      obtain ⟨found, hmem, hfound⟩ := List.exists_of_findSome?_eq_some hscheme
      obtain ⟨after, hafter, heq⟩ := Option.map_eq_some_iff.mp hfound
      obtain ⟨rfl, rfl⟩ := Prod.mk.inj heq
      have hschemes : found ∈ ["http://".toList, "https://".toList] := by
        simpa [or_comm] using hmem
      exact ⟨found, hschemes, c, rest, dropPrefixChars?_eq_some_iff.mp hafter, by simpa using h⟩
    · cases h
  · rintro ⟨scheme, hscheme, c, rest, rfl, hc⟩
    rcases List.mem_pair.mp hscheme with rfl | rfl
    · simp [startsAddress, scheme?, Text.dropPrefixChars?, hc]
    · simp [startsAddress, scheme?, Text.dropPrefixChars?, hc]

/-- An address starts with characters that are no blanks, so it starts in front of the next one. -/
lemma BeginsAddress.takeWhile (h : BeginsAddress cs) :
    BeginsAddress (cs.takeWhile (!Text.isBlank ·)) := by
  obtain ⟨scheme, hscheme, c, rest, rfl, hc⟩ := h
  have hall : scheme.all (!Text.isBlank ·) = true := by
    rcases List.mem_pair.mp hscheme with rfl | rfl
    · decide
    · decide
  refine ⟨scheme, hscheme, c, rest.takeWhile (!Text.isBlank ·), ?_, hc⟩
  rw [List.takeWhile_append_of_pos (List.all_eq_true.mp hall),
    List.takeWhile_cons_of_pos (by rw [hc]; rfl)]

lemma BeginsAddress.head?_eq (h : BeginsAddress cs) : cs.head? = some 'h' := by
  obtain ⟨scheme, hscheme, c, rest, rfl, -⟩ := h
  rcases List.mem_pair.mp hscheme with rfl | rfl
  · rfl
  · rfl

lemma NoneBegins.tail (h : NoneBegins (c :: text) after) : NoneBegins text after :=
  fun back hsome hback => h back hsome (hback.trans (List.suffix_cons c text))

lemma NoneBegins.not_startsAddress (h : NoneBegins (c :: text) after) :
    ¬startsAddress (c :: (text ++ after)) = true := by
  rw [startsAddress_iff]
  exact h (c :: text) (List.cons_ne_nil _ _) List.suffix_rfl

lemma noneBegins_cons (hfirst : ¬BeginsAddress (c :: (text ++ after)))
    (h : NoneBegins text after) : NoneBegins (c :: text) after := by
  intro back hsome hback
  rcases List.suffix_cons_iff.mp hback with rfl | hback
  · exact hfirst
  · exact h back hsome hback

/-- A text of characters that pass, in front of the end or of one that does not. -/
lemma takeWhile_eq_of_ends {p : Char → Bool} (hall : ∀ c ∈ text, p c = true)
    (hends : ∀ c ∈ after.head?, p c = false) : (text ++ after).takeWhile p = text := by
  rw [List.takeWhile_append_of_pos hall]
  rcases after with _ | ⟨c, after⟩
  · simp
  · simp [hends c rfl]

lemma dropWhile_eq_of_ends {p : Char → Bool} (hall : ∀ c ∈ text, p c = true)
    (hends : ∀ c ∈ after.head?, p c = false) : (text ++ after).dropWhile p = after := by
  rw [List.dropWhile_append_of_pos hall]
  rcases after with _ | ⟨c, after⟩
  · rfl
  · simp [hends c rfl]

end Addresses

/-! ### Divisions -/

/-- Addresses, each with the text in front of it, and the text behind the last one. -/
structure Division where
  links : List (List Char × List Char)
  rest : List Char

namespace Division

/-- All parts, one after the other. -/
def text (d : Division) : List Char := d.links.flatMap (fun link => link.1 ++ link.2) ++ d.rest

/-- The same with an anchor for each address, which shows it as a link to itself. -/
def marked (d : Division) : List Char :=
  d.links.flatMap (fun link => link.1 ++ ("<a href=\"".toList ++ link.2 ++
    "\" class=\"link\" target=\"_blank\">".toList ++ link.2 ++ "</a>".toList)) ++ d.rest

/-- One more character at the start. -/
def cons (c : Char) (d : Division) : Division :=
  match d.links with
  | [] => { d with rest := c :: d.rest }
  | (plain, url) :: links => { d with links := (c :: plain, url) :: links }

/-- One more address at the start. -/
def link (url : List Char) (d : Division) : Division := { d with links := ([], url) :: d.links }

/-- The pieces of a line, those between two addresses together. -/
def ofPieces : List Piece → Division
  | [] => ⟨[], []⟩
  | .plain c :: pieces => (ofPieces pieces).cons c
  | .address url :: pieces => (ofPieces pieces).link url

end Division

/-- A line is divided at its addresses. Each one goes on to the next blank or to the end of the line
and none starts within the text in front of one or behind the last. -/
inductive Divides : List Char → Division → Prop
  | plain {text : List Char} (htext : NoneBegins text []) : Divides text ⟨[], text⟩
  | link {plain url line : List Char} {d : Division} (hplain : NoneBegins plain (url ++ line))
    (haddress : IsAddress url) (hends : ∀ c ∈ line.head?, Text.isBlank c = true)
    (hline : Divides line d) :
    Divides (plain ++ (url ++ line)) { d with links := (plain, url) :: d.links }

section Divisions

variable {c : Char} {line text after url : List Char} {d : Division}

lemma text_of_divides (h : Divides line d) : d.text = line := by
  induction h with
  | plain htext => rfl
  | link hplain haddress hends hline ih =>
    rw [Division.text] at ih ⊢
    rw [List.flatMap_cons, List.append_assoc, ih, List.append_assoc]

lemma marked_eq (d : Division) :
    d.marked = d.links.flatMap (fun link => link.1 ++ anchor link.2) ++ d.rest := rfl

lemma marked_cons (c : Char) (d : Division) : (d.cons c).marked = c :: d.marked := by
  obtain ⟨_ | ⟨⟨plain, url⟩, links⟩, rest⟩ := d
  · rfl
  · rfl

lemma marked_ofPieces (pieces : List Piece) :
    (Division.ofPieces pieces).marked = pieces.flatMap Piece.markup := by
  induction pieces with
  | nil => rfl
  | cons piece pieces ih =>
    cases piece with
    | plain c =>
      rw [Division.ofPieces, marked_cons, ih]
      rfl
    | address url =>
      rw [List.flatMap_cons, ← ih, marked_eq, marked_eq, ← List.append_assoc]
      rfl

lemma Divides.cons (h : Divides line d) (hfirst : ¬BeginsAddress (c :: line)) :
    Divides (c :: line) (d.cons c) := by
  cases h with
  | plain htext => exact .plain (noneBegins_cons (by rwa [List.append_nil]) htext)
  | link hplain haddress hends hline =>
    exact .link (noneBegins_cons hfirst hplain) haddress hends hline

/-- A division is found piece by piece. -/
lemma divides_ofPieces (line : List Char) : Divides line (.ofPieces (pieces line)) := by
  induction line using pieces.induct with
  | case1 =>
    rw [pieces]
    refine .plain fun back hsome hback => ?_
    exact absurd (List.suffix_nil.mp hback) hsome
  | case2 c cs hstarts ih =>
    have hbegins := startsAddress_iff.mp hstarts
    have hc : (!Text.isBlank c) = true := by
      obtain rfl : c = 'h' := Option.some.inj hbegins.head?_eq
      decide
    have haddress : IsAddress (c :: cs.takeWhile (!Text.isBlank ·)) := by
      rw [← List.takeWhile_cons_of_pos (p := (!Text.isBlank ·)) hc]
      exact ⟨hbegins.takeWhile, fun c hmem => by simpa using List.mem_takeWhile_imp hmem⟩
    have hends : ∀ c ∈ (cs.dropWhile (!Text.isBlank ·)).head?, Text.isBlank c = true := by
      intro c hmem
      have hnot := List.head?_dropWhile_not (!Text.isBlank ·) cs
      rw [Option.mem_def.mp hmem] at hnot
      simpa using hnot
    have hnone : ∀ after, NoneBegins [] after :=
      fun after back hsome hback => absurd (List.suffix_nil.mp hback) hsome
    have hline := Divides.link (hnone _) haddress hends ih
    rw [List.nil_append, List.cons_append, List.takeWhile_append_dropWhile] at hline
    rw [pieces, if_pos hstarts]
    exact hline
  | case3 c cs hstarts ih =>
    rw [pieces, if_neg hstarts]
    exact ih.cons (mt startsAddress_iff.mpr hstarts)

lemma pieces_append_of_noneBegins (h : NoneBegins text after) :
    pieces (text ++ after) = text.map .plain ++ pieces after := by
  induction text with
  | nil => rfl
  | cons c text ih =>
    rw [List.cons_append, pieces, if_neg h.not_startsAddress, ih h.tail]
    rfl

lemma pieces_append_of_isAddress (h : IsAddress url)
    (hends : ∀ c ∈ line.head?, Text.isBlank c = true) :
    pieces (url ++ line) = .address url :: pieces line := by
  have hstarts := startsAddress_iff.mpr (h.begins.append line)
  rcases url with _ | ⟨c, url⟩
  · cases h.begins.head?_eq
  have hall : ∀ c ∈ url, (!Text.isBlank c) = true :=
    fun c hc => by rw [h.not_blank c (List.mem_cons_of_mem _ hc)]; rfl
  have hends' : ∀ c ∈ line.head?, (!Text.isBlank c) = false := fun c hc => by rw [hends c hc]; rfl
  rw [List.cons_append] at hstarts ⊢
  rw [pieces, if_pos hstarts, takeWhile_eq_of_ends hall hends', dropWhile_eq_of_ends hall hends']

lemma ofPieces_map_plain (text : List Char) (pieces : List Piece) :
    Division.ofPieces (text.map .plain ++ pieces) =
      text.foldr Division.cons (.ofPieces pieces) := by
  induction text with
  | nil => rfl
  | cons c text ih => rw [List.map_cons, List.cons_append, Division.ofPieces, ih, List.foldr_cons]

lemma foldr_cons_link (plain url : List Char) (d : Division) :
    plain.foldr Division.cons (d.link url) = { d with links := (plain, url) :: d.links } := by
  induction plain with
  | nil => rfl
  | cons c plain ih =>
    rw [List.foldr_cons, ih]
    rfl

lemma foldr_cons_nil (text : List Char) :
    text.foldr Division.cons (.ofPieces []) = ⟨[], text⟩ := by
  induction text with
  | nil => rfl
  | cons c text ih =>
    rw [List.foldr_cons, ih]
    rfl

lemma eq_of_divides (h : Divides line d) : d = .ofPieces (pieces line) := by
  induction h with
  | @plain text htext =>
    have hpieces := pieces_append_of_noneBegins htext
    rw [List.append_nil, pieces] at hpieces
    rw [hpieces, ofPieces_map_plain, foldr_cons_nil]
  | @link plain url line d hplain haddress hends hline ih =>
    rw [pieces_append_of_noneBegins hplain, pieces_append_of_isAddress haddress hends,
      ofPieces_map_plain, Division.ofPieces, ← ih, foldr_cons_link]

/-- There is one way to divide a line. -/
lemma divides_iff : Divides line d ↔ d = .ofPieces (pieces line) := by
  constructor
  · exact eq_of_divides
  · rintro rfl
    exact divides_ofPieces line

end Divisions

/-! ### Reading a marked line -/

/-- An anchor has its address between a mark and a quote that a blank follows. -/
lemma exists_anchor_eq (url : List Char) :
    ∃ more, anchor url = "<a href=\"".toList ++ (url ++ '"' :: ' ' :: more) := by
  have hafter : "\" class=\"link\" target=\"_blank\">".toList =
      '"' :: ' ' :: "class=\"link\" target=\"_blank\">".toList := by simp
  refine ⟨"class=\"link\" target=\"_blank\">".toList ++ (url ++ "</a>".toList), ?_⟩
  unfold anchor
  rw [hafter]
  simp only [List.append_assoc, List.cons_append]

lemma length_anchor_pos (url : List Char) : 0 < (anchor url).length := by
  obtain ⟨more, hanchor⟩ := exists_anchor_eq url
  rw [hanchor]
  exact Nat.succ_pos _

/-- The address of an anchor that stands at the start of a text. -/
def anchored? (cs : List Char) : Option (List Char) :=
  let quoted := (cs.drop "<a href=\"".toList.length).takeWhile (!Text.isBlank ·)
  let url := quoted.dropLast
  if startsAddress url && (anchor url).isPrefixOf cs then some url else none

/-- The text with the address in place of each anchor. -/
def unlink : List Char → List Char
  | [] => []
  | c :: cs =>
    match anchored? (c :: cs) with
    | some url => url ++ unlink ((c :: cs).drop (anchor url).length)
    | none => c :: unlink cs
termination_by cs => cs.length
decreasing_by
  · rw [List.length_drop]
    exact Nat.sub_lt (Nat.succ_pos _) (length_anchor_pos url)
  · exact Nat.lt_succ_self _

section Reading

variable {c : Char} {line text after out url : List Char} {d : Division}

lemma anchored?_anchor (h : IsAddress url) (rest : List Char) :
    anchored? (anchor url ++ rest) = some url := by
  obtain ⟨more, hanchor⟩ := exists_anchor_eq url
  have hquoted : (((anchor url ++ rest).drop "<a href=\"".toList.length).takeWhile
      (!Text.isBlank ·)) = url ++ ['"'] := by
    have hall : ∀ c ∈ url ++ ['"'], (!Text.isBlank c) = true := by
      intro c hmem
      rcases List.mem_append.mp hmem with hurl | hquote
      · rw [h.not_blank c hurl]
        rfl
      · rw [List.mem_singleton.mp hquote]
        decide
    rw [hanchor, List.append_assoc, List.drop_left]
    have hdivide : url ++ '"' :: ' ' :: more ++ rest = (url ++ ['"']) ++ ' ' :: (more ++ rest) := by
      simp
    rw [hdivide]
    refine takeWhile_eq_of_ends hall fun c hc => ?_
    rw [← Option.some.inj hc]
    decide
  have hprefix : (anchor url).isPrefixOf (anchor url ++ rest) = true :=
    List.isPrefixOf_iff_prefix.mpr (List.prefix_append _ _)
  rw [anchored?, hquoted, List.dropLast_concat, startsAddress_iff.mpr h.begins, hprefix]
  rfl

lemma of_anchored?_eq_some (h : anchored? text = some url) :
    BeginsAddress url ∧ anchor url <+: text := by
  unfold anchored? at h
  dsimp only at h
  split at h
  · next hboth =>
    obtain rfl := Option.some.inj h
    rw [Bool.and_eq_true, startsAddress_iff, List.isPrefixOf_iff_prefix] at hboth
    exact hboth
  · cases h

lemma unlink_anchor (h : IsAddress url) (rest : List Char) :
    unlink (anchor url ++ rest) = url ++ unlink rest := by
  obtain ⟨c, cs, hcons⟩ := List.exists_cons_of_length_pos
    (Nat.lt_of_lt_of_le (length_anchor_pos url) (List.prefix_append _ rest).length_le)
  have hanchored := anchored?_anchor h rest
  rw [hcons] at hanchored
  rw [hcons, unlink, hanchored]
  dsimp only
  rw [← hcons, List.drop_left]

/-- What does not hold the first character of `more` ends in front of it. -/
lemma isPrefix_of_notMem {more : List Char} (hnot : c ∉ text) (hmore : ∀ x ∈ more.head?, x = c)
    (h : text <+: line ++ more) : text <+: line := by
  rcases Nat.le_total text.length line.length with hle | hge
  · exact List.prefix_of_prefix_length_le h (List.prefix_append _ _) hle
  obtain ⟨tail, rfl⟩ := List.prefix_of_prefix_length_le (List.prefix_append _ _) h hge
  rcases tail with _ | ⟨x, tail⟩
  · simp
  obtain ⟨rest, hrest⟩ := (List.prefix_append_right_inj line).mp h
  have hx : x = c := hmore x (by rw [← hrest]; rfl)
  exact absurd (by simp [hx]) hnot

/-- The scheme of an anchor that starts within a text is in the text as well, if nothing follows it
but a further anchor. -/
lemma exists_scheme_of_anchored? (hout : ∀ x ∈ out.head?, x = '<')
    (h : anchored? (c :: text ++ out) = some url) :
    ∃ scheme ∈ ["http://".toList, "https://".toList], ∃ left x,
      text = "a href=\"".toList ++ scheme ++ left ∧ Text.isBlank x = false ∧
        [x] <+: left ++ out := by
  obtain ⟨⟨scheme, hscheme, x, rest, rfl, hx⟩, hanchor⟩ := of_anchored?_eq_some h
  obtain ⟨more, heq⟩ := exists_anchor_eq (scheme ++ x :: rest)
  have hmark : "<a href=\"".toList = '<' :: "a href=\"".toList := by simp
  have hbegins : "a href=\"".toList ++ scheme ++ [x] <+: text ++ out := by
    rw [heq, hmark, List.cons_append, List.cons_append, List.cons_prefix_cons] at hanchor
    refine List.IsPrefix.trans ⟨rest ++ '"' :: ' ' :: more, ?_⟩ hanchor.2
    simp only [List.append_assoc, List.cons_append, List.nil_append]
  have hnot : '<' ∉ "a href=\"".toList ++ scheme := by
    rcases List.mem_pair.mp hscheme with rfl | rfl
    · decide
    · decide
  obtain ⟨left, rfl⟩ := isPrefix_of_notMem hnot hout ((List.prefix_append _ _).trans hbegins)
  simp only [List.append_assoc, List.prefix_append_right_inj] at hbegins
  exact ⟨scheme, hscheme, left, x, rfl, hx, hbegins⟩

/-- A scheme that no blank follows in the marked line is not followed by one in the line either. -/
lemma beginsAddress_of_next {scheme left : List Char} {x : Char}
    (hscheme : scheme ∈ ["http://".toList, "https://".toList]) (hx : Text.isBlank x = false)
    (hnext : [x] <+: left ++ out)
    (hafter : out ≠ [] → ∃ x ∈ after.head?, Text.isBlank x = false) :
    BeginsAddress (scheme ++ (left ++ after)) := by
  rcases left with _ | ⟨y, left⟩
  · have hsome : out ≠ [] := by
      rintro rfl
      simp at hnext
    obtain ⟨y, hy, hblank⟩ := hafter hsome
    obtain ⟨after, rfl⟩ := List.head?_eq_some_iff.mp hy
    exact ⟨scheme, hscheme, y, after, rfl, hblank⟩
  · obtain rfl : x = y := (List.cons_prefix_cons.mp hnext).1
    exact ⟨scheme, hscheme, x, left ++ after, rfl, hx⟩

/-- No anchor starts in a text without addresses, even in front of one: its address would have to
start in the text as well. -/
lemma anchored?_of_noneBegins (hnone : NoneBegins (c :: text) after)
    (hout : ∀ x ∈ out.head?, x = '<')
    (hafter : out ≠ [] → ∃ x ∈ after.head?, Text.isBlank x = false) :
    anchored? (c :: text ++ out) = none := by
  by_contra hanchored
  obtain ⟨url, hurl⟩ := Option.ne_none_iff_exists'.mp hanchored
  obtain ⟨scheme, hscheme, left, x, rfl, hx, hnext⟩ := exists_scheme_of_anchored? hout hurl
  have hsome : scheme ++ left ≠ [] := by
    rcases List.mem_pair.mp hscheme with rfl | rfl
    · exact List.cons_ne_nil _ _
    · exact List.cons_ne_nil _ _
  refine hnone (scheme ++ left) hsome ⟨c :: "a href=\"".toList, by simp⟩ ?_
  rw [List.append_assoc]
  exact beginsAddress_of_next hscheme hx hnext hafter

lemma unlink_append (hnone : NoneBegins text after) (hout : ∀ x ∈ out.head?, x = '<')
    (hafter : out ≠ [] → ∃ x ∈ after.head?, Text.isBlank x = false) :
    unlink (text ++ out) = text ++ unlink out := by
  induction text with
  | nil => rfl
  | cons c text ih =>
    have hplain := anchored?_of_noneBegins hnone hout hafter
    rw [List.cons_append] at hplain ⊢
    rw [unlink, hplain]
    dsimp only
    rw [ih hnone.tail, List.cons_append]

/-- A division is read back from its anchors. -/
lemma unlink_marked (h : Divides line d) : unlink d.marked = line := by
  induction h with
  | @plain text htext =>
    have hread : unlink (text ++ []) = text ++ unlink [] :=
      unlink_append htext (by simp) (by simp)
    rwa [List.append_nil, unlink, List.append_nil] at hread
  | @link plain url line d hplain haddress hends hline ih =>
    obtain ⟨more, hanchor⟩ := exists_anchor_eq url
    have hmarked : Division.marked { d with links := (plain, url) :: d.links } =
        plain ++ (anchor url ++ d.marked) := by
      simp [marked_eq]
    have hout : ∀ x ∈ (anchor url ++ d.marked).head?, x = '<' := by
      simp [hanchor]
    have hhead : (url ++ line).head? = some 'h' := (haddress.begins.append line).head?_eq
    rw [hmarked, unlink_append hplain hout fun _ => ⟨'h', hhead, by decide⟩, unlink_anchor haddress,
      ih]

end Reading

/-- A line is divided in one way into its web addresses and the text between them, and its markup is
this division with an anchor for each address. A line without an address stays as it is, and the
address in place of each anchor gives back the line. -/
theorem markup_links_addresses (line : String) :
    ∃ d : Division, (∀ other, Divides line.toList other ↔ other = d) ∧
      d.text = line.toList ∧ (markup line).toList = d.marked ∧
      (NoneBegins line.toList [] → markup line = line) ∧
      unlink (markup line).toList = line.toList := by
  have hdivides := divides_ofPieces line.toList
  have hmarked : (markup line).toList = (Division.ofPieces (pieces line.toList)).marked := by
    rw [markup, String.toList_ofList, marked_ofPieces]
  refine ⟨_, fun other => divides_iff, text_of_divides hdivides, hmarked, fun hnone => ?_, ?_⟩
  · rw [← divides_iff.mp (.plain hnone)] at hmarked
    exact String.toList_inj.mp hmarked
  · rw [hmarked, unlink_marked hdivides]

/-- A scheme with nothing behind it starts no address. One may have a letter in front of it, a
dollar sign in it and a wide blank behind it. -/
example : markup "http:// hhttp://$1\u3000x" =
    "http:// h<a href=\"http://$1\" class=\"link\" target=\"_blank\">http://$1</a>\u3000x" := by
  decide +kernel

end SeedShell.Proofs
