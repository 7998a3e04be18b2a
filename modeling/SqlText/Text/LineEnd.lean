/-!
# Line ends — one character for each

    withLineFeeds "a\r\nb\rc".toList  =  "a\nb\nc".toList

A line ends at a line feed, a carriage return or both together. Read as text, each of these
is one line feed.
-/

namespace SqlText.Text

/-- The characters with a line feed for every line end. -/
def withLineFeeds : List Char → List Char
  | []                 => []
  | '\r' :: '\n' :: cs => '\n' :: withLineFeeds cs
  | '\r' :: cs         => '\n' :: withLineFeeds cs
  | c :: cs            => c :: withLineFeeds cs

end SqlText.Text
