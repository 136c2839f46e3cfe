import PackedScript.Text.Substitute

/-!
# Flattened pages

The text of a page hides scripts behind line breaks, escaped slashes and character entities.
Flattening undoes a fixed list of them, one after the other, so that an entity which an earlier step
uncovers is undone by a later one. At the end the spaces around each colon go.
-/

namespace PackedScript.Page

/-- What is replaced and by what, in the order of the steps (`REPLACEMENTS`). -/
def substitutions : List (Text × Text) := [
  ("\r".toList, []),
  ("\n".toList, []),
  ("\t".toList, []),
  ("\\/".toList, "/".toList),
  ("&amp;".toList, "&".toList),
  ("&#039;".toList, "'".toList),
  ("&#8211;".toList, "-".toList),
  ("&#8212;".toList, "-".toList),
  ("&eacute;".toList, "é".toList),
  ("&acirc;".toList, "â".toList),
  ("&ecirc;".toList, "ê".toList),
  ("&icirc;".toList, "î".toList),
  ("&ocirc;".toList, "ô".toList),
  ("&hellip;".toList, "...".toList),
  ("&quot;".toList, "\"".toList),
  ("&gt;".toList, ">".toList),
  ("&egrave;".toList, "è".toList),
  ("&ccedil;".toList, "ç".toList),
  ("&laquo;".toList, "<<".toList),
  ("&raquo;".toList, ">>".toList),
  ("É".toList, "E".toList),
  ("&ndash;".toList, "-".toList),
  ("&ugrave;".toList, "ù".toList),
  ("&agrave;".toList, "à".toList),
  ("&lt;".toList, "<".toList),
  ("&rsquo;".toList, "'".toList),
  ("&lsquo;".toList, "'".toList),
  ("&nbsp;".toList, []),
  ("&#8217;".toList, "'".toList),
  ("&#8230;".toList, "...".toList),
  ("&#8242;".toList, "'".toList),
  ("&#884;".toList, "'".toList),
  ("&#39;".toList, "'".toList),
  ("&#038;".toList, "&".toList),
  ("&iuml;".toList, "ï".toList),
  ("&#8220;".toList, "\"".toList),
  ("&#8221;".toList, "\"".toList),
  ("–".toList, "-".toList),
  ("—".toList, "-".toList),
  ("&#58;".toList, ":".toList)]

/-- Replaces a colon and the spaces around it by the colon. A run of spaces that no colon follows is
kept as a whole. -/
def tightColon : Text.Rule Char Char := fun t =>
  let before := t.takeWhile (· == ' ')
  match Text.skipSpaces t with
  | ':' :: rest => some ([':'], before.length + 1 + (rest.takeWhile (· == ' ')).length)
  | _ => if before.isEmpty then none else some (before, before.length)

/-- A text without spaces around colons. -/
def tightenColons (t : Text) : Text := Text.substitute tightColon t

/-- The flattened form of the text of a page (`normalize`). -/
def flatten (t : Text) : Text :=
  tightenColons (substitutions.foldl (fun t step => Text.replaceAll step.1 step.2 t) t)

example : substitutions.length = 40 := rfl

end PackedScript.Page
