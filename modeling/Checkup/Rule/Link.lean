import Checkup.Rule.Basic

/-!
# Rules about links

They belong to every table.
-/

namespace Checkup.Rule
open Pattern

def webScheme : Pattern := text "http" ++ optional (text "s") ++ text "://"

def link : List Rule :=
  [{ id := "no-localhost-url"
     pattern := webScheme ++ texts ["localhost", "127.0.0.1", "0.0.0.0"] ++ wordEdge
     message := "Hard-coded localhost URL"
     severity := .warning },
   { id := "no-url-shortener"
     pattern := webScheme ++
      texts ["bit.ly", "tinyurl.com", "goo.gl", "t.co", "ow.ly", "is.gd", "buff.ly"] ++ text "/"
     message := "URL shortener hides the real destination"
     severity := .info }]

end Checkup.Rule
