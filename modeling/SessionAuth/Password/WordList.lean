/-!
# Words in passwords

Words that passwords are often made of, the most frequent first.
-/

set_option autoImplicit false

namespace SessionAuth
namespace Password

/-- Common words, the most frequent first. -/
def commonWords : List String :=
  ["password", "qwerty", "letmein", "qazwsx", "qazwsxedc", "edcrfv", "1q2w3e", "1q2w3e4r",
   "zaq12wsx", "abc123", "asdfghjkl", "zxcvbnm", "iloveu", "dragon", "monkey", "iloveyou",
   "baseball", "football", "master", "welcome", "login", "admin", "princess", "sunshine",
   "shadow", "secret", "trustno", "superstar", "starlight", "whatever", "freedom", "computer",
   "internet", "hello", "hockey", "soccer", "killer", "summer", "winter", "spring", "autumn",
   "flower", "cheese", "pepper", "ginger", "cookie", "banana", "orange", "purple", "silver",
   "golden", "diamond", "guitar", "access", "pass", "passwd", "test", "testing", "tester",
   "guest", "default", "changeme", "change", "user", "love", "lovely", "lover", "angel", "family",
   "friends", "friend", "forever", "happy", "peace", "power", "magic", "money", "rocket",
   "rainbow", "butterfly", "chocolate", "star", "tiger", "lion", "eagle", "falcon", "wolf",
   "panther", "cowboy", "ranger", "hunter", "hunting", "fishing", "fish", "bear", "horse",
   "mustang", "corvette", "phoenix", "thunder", "lightning", "storm", "ocean", "river",
   "mountain", "forest", "garden", "island", "heaven", "hell", "devil", "demon", "death", "blood",
   "ghost", "spider", "snake", "rabbit", "bunny", "kitty", "kitten", "puppy", "doggie", "doggy",
   "dog", "cat", "bird", "duck", "chicken", "turkey", "coffee", "cream", "sugar", "honey",
   "candy", "sweet", "sweetie", "cherry", "apple", "peach", "lemon", "strawberry", "blueberry",
   "pumpkin", "pickle", "peanut", "cookies", "muffin", "cupcake", "pizza", "burger", "music",
   "dance", "dancer", "singer", "player", "gamer", "game", "games", "gaming", "winner",
   "champion", "legend", "hero", "warrior", "knight", "king", "queen", "prince", "emperor",
   "captain", "soldier", "pirate", "ninja", "samurai", "wizard", "matrix", "mercury", "saturn",
   "jupiter", "venus", "mars", "earth", "moon", "moonlight", "sunset", "sunrise", "sun", "sky",
   "blue", "red", "green", "yellow", "black", "white", "pink", "brown", "gray", "scarlet",
   "crystal", "platinum", "copper", "iron", "steel", "metal", "stone", "fire", "water", "wind",
   "snow", "snowball", "winterfell", "january", "february", "march", "april", "may", "june",
   "july", "august", "september", "october", "november", "december", "monday", "tuesday",
   "wednesday", "thursday", "friday", "saturday", "sunday", "administrator", "root", "system",
   "server", "service", "support", "manager", "account", "security", "secure", "private",
   "public", "office", "company", "business", "network", "windows", "desktop", "laptop", "mobile",
   "phone", "email", "mail", "website", "web", "database", "backup", "temp", "temporary", "demo",
   "sample", "example", "student", "teacher", "school", "college", "university", "library",
   "doctor", "nurse", "lawyer", "police", "driver", "trucker", "biker", "racing", "racer",
   "turbo", "speed", "fast", "quick", "slow", "strong", "weak", "hard", "easy", "good", "bad",
   "best", "great", "super", "mega", "ultra", "extreme", "crazy", "stupid", "smart", "genius",
   "clever", "funny", "joker", "clown", "circus", "party", "holiday", "vacation", "christmas",
   "birthday", "anniversary", "wedding", "baby", "mother", "father", "brother", "sister", "daddy",
   "mommy", "mama", "papa", "grandma", "grandpa", "wife", "husband", "darling", "sweetheart",
   "heart", "hearts", "kiss", "kisses", "hugs", "smile", "smiley", "laugh", "dream", "dreams",
   "dreamer", "hope", "faith", "trust", "believe", "blessed", "spirit", "soul", "life", "live",
   "living", "alive", "destiny", "fortune", "lucky", "luck", "chance", "victory", "triumph",
   "liberty", "justice", "honor", "glory", "courage", "bravo", "alpha", "beta", "gamma", "delta",
   "omega", "sigma", "zero", "one", "two", "three", "four", "five", "six", "seven", "eight",
   "nine", "ten", "hundred", "thousand", "million", "the", "and", "you", "me", "my", "is", "it",
   "in", "on", "at", "to", "of", "for", "with", "from", "this", "that", "what", "where", "when",
   "who", "why", "how", "yes", "no", "not", "never", "always", "ever", "now", "then", "here",
   "there", "home", "house", "word", "words", "key", "keys", "code", "number", "letter", "open",
   "close", "enter", "exit", "start", "stop", "begin", "end", "up", "down", "left", "right",
   "correct", "battery", "staple"]

end Password
end SessionAuth
