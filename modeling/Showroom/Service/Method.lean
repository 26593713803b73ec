/-!
# Showroom.Service.Method

The calls that the service answers, and the paths under which they are made.
-/

namespace Showroom

inductive Method where
  | createLaptop
  | searchLaptop
  | uploadImage
  | rateLaptop
  | login
deriving DecidableEq, Inhabited

namespace Method

def all : List Method := [createLaptop, searchLaptop, uploadImage, rateLaptop, login]

def path : Method → String
  | createLaptop => "/catalog.LaptopService/CreateLaptop"
  | searchLaptop => "/catalog.LaptopService/SearchLaptop"
  | uploadImage => "/catalog.LaptopService/UploadImage"
  | rateLaptop => "/catalog.LaptopService/RateLaptop"
  | login => "/catalog.AuthService/Login"

def ofPath? (path : String) : Option Method := all.find? fun m => m.path = path

end Method

end Showroom
