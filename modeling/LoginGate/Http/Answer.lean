import LoginGate.Http.Agent

/-!
# Answers to requests

## Main definitions

* `Http.Answer` : an answer, or the words for its absence.
* `Http.Message.text?` : the body of an answer as text.
* `Http.reason`, `Http.Message.reason` : the phrase for a status.
-/

namespace LoginGate.Http

/-- An answer. -/
structure Message where
  status : Int
  contentType : Option String := none
  body : Bytes
  /-- The phrase that the server has for the status, if it sends one. -/
  phrase : Option String := none
  deriving DecidableEq, Repr

/-- The body as text, for people to read, if it is text for the agent that reads it. -/
def Message.text? (agent : Agent) (message : Message) : Option String :=
  if message.body.isEmpty then some "" else agent.text? message.contentType message.body

/-- Whether a status tells of success. -/
def Message.isSuccess (message : Message) : Bool := 200 ≤ message.status && message.status < 300

/-- An answer, or none. -/
inductive Answer where
  | message (message : Message)
  /-- None came, for a reason in words. -/
  | none (why : String)
  deriving DecidableEq, Repr

/-- The standard phrases. -/
def reasons : List (Int × String) := [
  (100, "Continue"), (101, "Switching Protocols"), (102, "Processing"), (103, "Early Hints"),
  (200, "OK"), (201, "Created"), (202, "Accepted"), (203, "Non-Authoritative Information"),
  (204, "No Content"), (205, "Reset Content"), (206, "Partial Content"), (207, "Multi-Status"),
  (208, "Already Reported"), (226, "IM Used"), (300, "Multiple Choices"),
  (301, "Moved Permanently"), (302, "Found"), (303, "See Other"), (304, "Not Modified"),
  (305, "Use Proxy"), (307, "Temporary Redirect"), (308, "Permanent Redirect"),
  (400, "Bad Request"), (401, "Unauthorized"), (402, "Payment Required"), (403, "Forbidden"),
  (404, "Not Found"), (405, "Method Not Allowed"), (406, "Not Acceptable"),
  (407, "Proxy Authentication Required"), (408, "Request Timeout"), (409, "Conflict"),
  (410, "Gone"), (411, "Length Required"), (412, "Precondition Failed"),
  (413, "Request Entity Too Large"), (414, "Request-URI Too Long"),
  (415, "Unsupported Media Type"), (416, "Requested Range Not Satisfiable"),
  (417, "Expectation Failed"), (418, "I'm a teapot"), (421, "Misdirected Request"),
  (422, "Unprocessable Entity"), (423, "Locked"), (424, "Failed Dependency"), (425, "Too Early"),
  (426, "Upgrade Required"), (428, "Precondition Required"), (429, "Too Many Requests"),
  (431, "Request Header Fields Too Large"), (451, "Unavailable For Legal Reasons"),
  (500, "Internal Server Error"), (501, "Not Implemented"), (502, "Bad Gateway"),
  (503, "Service Unavailable"), (504, "Gateway Timeout"), (505, "HTTP Version Not Supported"),
  (506, "Variant Also Negotiates"), (507, "Insufficient Storage"), (508, "Loop Detected"),
  (510, "Not Extended"), (511, "Network Authentication Required")]

/-- The standard phrase of a status, empty if there is none. -/
def reason (status : Int) : String := (reasons.lookup status).getD ""

/-- The phrase for the status of an answer: the server's own, or else the standard one. -/
def Message.reason (message : Message) : String :=
  message.phrase.getD (Http.reason message.status)

end LoginGate.Http
